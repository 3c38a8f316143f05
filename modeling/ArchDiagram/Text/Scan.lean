import ArchDiagram.Text.Blank

/-!
# Cutting a text at what a recogniser finds

A recogniser looks at the rest of a text and answers what it found at its start, together with the
number of characters found beyond the first.  `pieces` goes through a text from the left and cuts it
at the leftmost places where the recogniser succeeds; places that overlap an earlier one are not
looked at.

* `pieces`: single characters and findings, in order.
* `replaceAll`: every occurrence of a pattern replaced.
* `breakAt?`: the text before the first occurrence of a pattern, and the text from it on.
* `contains`: whether a pattern occurs at all.
-/

namespace ArchDiagram.Text

/-- What a recogniser finds at the start of a text, and how many characters beyond the first. -/
abbrev Recogniser (α : Type) := List Char → Option (α × Nat)

/-- A part of a text that has been cut: a character on its own, or a finding. -/
inductive Piece (α : Type) where
  | char (c : Char)
  | found (a : α)

/-- The pieces of a text; `skip` characters belong to the finding before, and `done` holds the
pieces so far, reversed. -/
def piecesLoop {α : Type} (r : Recogniser α) : Nat → List (Piece α) → List Char → List (Piece α)
  | _, done, [] => done.reverse
  | skip + 1, done, _ :: cs => piecesLoop r skip done cs
  | 0, done, c :: cs =>
    match r (c :: cs) with
    | some (a, more) => piecesLoop r more (.found a :: done) cs
    | none => piecesLoop r 0 (.char c :: done) cs

/-- A text cut at the leftmost findings that do not overlap. -/
def pieces {α : Type} (r : Recogniser α) (cs : List Char) : List (Piece α) :=
  piecesLoop r 0 [] cs

/-- Puts the pieces together again, each finding written by `write`. -/
def assemble {α : Type} (write : α → List Char) (ps : List (Piece α)) : List Char :=
  ps.flatMap fun
    | .char c => [c]
    | .found a => write a

/-- Recognises `front` itself. -/
def literal (front : List Char) : Recogniser Unit := fun cs =>
  match front with
  | [] => none
  | _ :: more => if (dropFront? front cs).isSome then some ((), more.length) else none

/-- Writes `new` for every occurrence of `old`, from the left. -/
def replaceAll (old new cs : List Char) : List Char :=
  assemble (fun _ => new) (pieces (literal old) cs)

/-- Splits a text before the first occurrence of `pat`; `front` holds what was passed, reversed. -/
def breakLoop (pat front : List Char) : List Char → Option (List Char × List Char)
  | [] => if pat.isEmpty then some (front.reverse, []) else none
  | c :: cs => if (dropFront? pat (c :: cs)).isSome then some (front.reverse, c :: cs)
      else breakLoop pat (c :: front) cs

/-- Splits a text before the first occurrence of `pat`. -/
def breakAt? (pat cs : List Char) : Option (List Char × List Char) :=
  breakLoop pat [] cs

def contains (pat cs : List Char) : Bool :=
  (breakAt? pat cs).isSome

end ArchDiagram.Text
