import ArchDiagram.Json.Number
import ArchDiagram.Json.Literal

/-!
# JSON

A JSON value as a tree.  A string literal that denotes no text is kept as `none`: such a literal may
stand wherever nobody asks for its text.  The members of an object keep their order and may repeat a
key.

* `Json.chars`: the compact text of a value.
* `Json.prettyChars`: the text with one member or item a line.
* `Json.isSound`: every literal denotes something, and containers nest to a bounded depth.
-/

namespace ArchDiagram

inductive Json where
  | null
  | bool (b : Bool)
  | number (n : Number)
  | string (s : Option String)
  | array (items : List Json)
  | object (members : List (Option String × Json))

namespace Json

def text (s : String) : Json :=
  .string (some s)

def nat (n : Nat) : Json :=
  .number (Number.ofNat n)

def float (x : Float) : Json :=
  .number (Number.ofFloat x)

def record (members : List (String × Json)) : Json :=
  .object (members.map fun (k, v) => (some k, v))

def textOrNull (s : Option String) : Json :=
  s.elim .null text

/-- The text of a string literal; one that denotes no text is written as half a surrogate pair. -/
def literalChars (s : Option String) : List Char :=
  match s with
  | some s => Literal.escape s
  | none => "\"\\ud800\"".toList

mutual

def chars : Json → List Char
  | .null => ['n', 'u', 'l', 'l']
  | .bool true => ['t', 'r', 'u', 'e']
  | .bool false => ['f', 'a', 'l', 's', 'e']
  | .number n => n.chars
  | .string s => literalChars s
  | .array xs => '[' :: (itemChars xs ++ [']'])
  | .object ms => Char.ofNat 0x7B :: (memberChars ms ++ [Char.ofNat 0x7D])

def itemChars : List Json → List Char
  | [] => []
  | [x] => x.chars
  | x :: y :: xs => x.chars ++ ',' :: itemChars (y :: xs)

def memberChars : List (Option String × Json) → List Char
  | [] => []
  | [(k, v)] => literalChars k ++ ':' :: v.chars
  | (k, v) :: m :: ms => literalChars k ++ ':' :: (v.chars ++ ',' :: memberChars (m :: ms))

end

def render (j : Json) : String :=
  String.ofList j.chars

/-- A line end and the indentation of a depth. -/
def newline (depth : Nat) : List Char :=
  '\n' :: List.replicate (2 * depth) ' '

mutual

/-- The text of a value with one item or member a line, two spaces deeper at each level. -/
def prettyChars (depth : Nat) : Json → List Char
  | .array [] => ['[', ']']
  | .array (x :: xs) => '[' :: (prettyItems (depth + 1) (x :: xs) ++ newline depth ++ [']'])
  | .object [] => [Char.ofNat 0x7B, Char.ofNat 0x7D]
  | .object (m :: ms) =>
    Char.ofNat 0x7B :: (prettyMembers (depth + 1) (m :: ms) ++ newline depth ++ [Char.ofNat 0x7D])
  | .null => ['n', 'u', 'l', 'l']
  | .bool b => if b then ['t', 'r', 'u', 'e'] else ['f', 'a', 'l', 's', 'e']
  | .number n => n.chars
  | .string s => literalChars s

def prettyItems (depth : Nat) : List Json → List Char
  | [] => []
  | [x] => newline depth ++ x.prettyChars depth
  | x :: y :: xs => newline depth ++ x.prettyChars depth ++ ',' :: prettyItems depth (y :: xs)

def prettyMembers (depth : Nat) : List (Option String × Json) → List Char
  | [] => []
  | [(k, v)] => newline depth ++ literalChars k ++ ':' :: ' ' :: v.prettyChars depth
  | (k, v) :: m :: ms =>
    newline depth ++ literalChars k ++ ':' :: ' ' :: v.prettyChars depth ++
      ',' :: prettyMembers depth (m :: ms)

end

def renderPretty (j : Json) : String :=
  String.ofList (j.prettyChars 0)

/-! ## Reading a value -/

def bool? : Json → Option Bool
  | .bool b => some b
  | _ => none

def text? : Json → Option String
  | .string s => s
  | _ => none

/-- The natural number below `bound` that a value is. -/
def natural? (bound : Nat) : Json → Option Nat
  | .number n => n.natural? bound
  | _ => none

def float? : Json → Option Float
  | .number n => n.float?
  | _ => none

def items? : Json → Option (List Json)
  | .array xs => some xs
  | _ => none

/-- A name given as a text, or as the only key of an object whose value is `null`. -/
def name? : Json → Option String
  | .string s => s
  | .object [(k, .null)] => k
  | _ => none

/-- Whether every literal denotes a text or a number in range, and at most `depth` containers stand
inside each other. -/
def isSound : Nat → Json → Bool
  | _, .null | _, .bool _ => true
  | _, .number n => n.float?.isSome
  | _, .string s => s.isSome
  | 0, .array _ | 0, .object _ => false
  | depth + 1, .array xs => xs.all (isSound depth)
  | depth + 1, .object ms => ms.all fun (k, v) => k.isSome && isSound depth v

end Json

end ArchDiagram
