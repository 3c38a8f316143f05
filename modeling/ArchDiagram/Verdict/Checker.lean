import ArchDiagram.Json.Reader
import ArchDiagram.Json.Record
import ArchDiagram.Verdict.Basic

/-!
# The checker

The checker is a program that reads a diagram and prints one JSON object about it.  Whatever it does
is turned into a verdict: a program that cannot be started, that fails, or that prints something
else rejects the diagram.

* `Checker.Outcome`: what running the checker comes to.
* `Checker.verdict`: the verdict of an outcome.
-/

namespace ArchDiagram.Checker

inductive Outcome where
  /-- It could not be started, for this reason. -/
  | unstartable (reason : String)
  /-- It ended, successfully or not, and printed this to its two streams. -/
  | ended (success : Bool) (out err : List UInt8)

/-- The depth of nesting that is read in a report. -/
def reportDepth : Nat := 126

/-- A value of any kind. -/
def anything? (depth : Nat) (j : Json) : Option Json :=
  if j.isSound depth then some j else none

/-- The verdict that a report describes.  Details of an unexpected kind are passed over. -/
def ofReport? (j : Json) : Option Verdict := do
  match ← j.slots ["valid", "message", "line", "token", "expected"] with
  | [v, m, l, t, e] =>
    let valid ← v.orElse false Json.bool?
    let message := (← m.optional (anything? reportDepth)).bind Json.text?
    let line := (← l.optional (anything? reportDepth)).bind (Json.natural? (Decimal.twoTo 32))
    let token := (← t.optional (anything? reportDepth)).bind Json.text?
    let expected ← e.optional fun x => do (← x.items?).mapM (anything? (reportDepth - 1))
    return {
      valid := valid
      message := if valid then message else some (Verdict.normalMessage message)
      line := line
      token := token
      expected := expected.map (·.filterMap Json.text?) }
  | _ => none

/-- What a failed checker printed, the error stream first. -/
def complaint (out err : List UInt8) : String :=
  let texts := [err, out].map fun bs => Text.trim (Utf8.decodeLossy bs)
  (texts.find? (· ≠ "")).getD "Mermaid validation failed."

def verdict : Outcome → Verdict
  | .unstartable reason => .rejected reason
  | .ended false out err => .rejected (complaint out err)
  | .ended true out _ =>
    match (Json.ofOctets? out).bind ofReport? with
    | some v => v
    | none => .rejected "Mermaid validator returned invalid JSON."

end ArchDiagram.Checker
