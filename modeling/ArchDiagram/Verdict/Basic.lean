import ArchDiagram.Decimal.Digits
import ArchDiagram.Text.Scan

/-!
# Verdicts on a diagram

A verdict tells whether the checker accepts a diagram, and if not, what it has to say about it.
Faults of the checker itself say nothing about the diagram and are replaced by a fixed message.

* `Verdict.normalMessage`: the message shown for what the checker said.
* `Verdict.feedback`: the lines handed to the model with a rejected diagram.
-/

namespace ArchDiagram

structure Verdict where
  valid : Bool
  message : Option String
  line : Option Nat
  token : Option String
  expected : Option (List String)
  deriving DecidableEq

namespace Verdict

def accepted : Verdict :=
  ⟨true, none, none, none, none⟩

def unexplained : String :=
  "Mermaid syntax is invalid and could not be parsed."

def checkerFault : String :=
  "Mermaid parser runtime failed in server context (sanitizer issue)."

/-- Texts by which faults of the checker itself are known. -/
def faultMarks : List String :=
  ["sanitize is not a function", "__TURBOPACK__imported__module"]

def isCheckerFault (message : String) : Bool :=
  faultMarks.any fun m => Text.contains m.toList message.toList

/-- The message shown for what the checker said. -/
def normalMessage (message : Option String) : String :=
  match message with
  | none => unexplained
  | some m =>
    if m.isEmpty then unexplained
    else if isCheckerFault m then checkerFault
    else m

def rejected (message : String) : Verdict :=
  ⟨false, some (normalMessage (some message)), none, none, none⟩

/-- The feedback on a diagram: one line for the message and one for each detail that is known. -/
def feedback (v : Verdict) : String :=
  if v.valid then "No syntax errors found."
  else
    let message := ["message: " ++ v.message.getD "unknown parse error"]
    let line := (v.line.map fun n => "line: " ++ Decimal.text n).toList
    let token := ((v.token.filter (· ≠ "")).map ("token: " ++ ·)).toList
    let expected :=
      ((v.expected.filter (· ≠ [])).map fun e => "expected: " ++ ", ".intercalate e).toList
    "\n".intercalate (message ++ line ++ token ++ expected)

end Verdict

end ArchDiagram
