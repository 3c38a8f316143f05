import ArchDiagram.Json.Record
import ArchDiagram.Prompt.Instructions

/-!
# Requests to the model

A request names a model and holds instructions, named sections of input and a few options.  It is
sent as two messages, the instructions and the sections; each section stands between tags of its
name, and its text is not touched.

* `Section.render`, `renderSections`: the text of the input.
* `TextRequest.messages`: the two messages.
-/

namespace ArchDiagram

structure Section where
  name : String
  value : String
  deriving DecidableEq

/-- A section between tags of its name. -/
def Section.render (s : Section) : String :=
  "<" ++ s.name ++ ">\n" ++ s.value ++ "\n</" ++ s.name ++ ">"

def renderSections (ss : List Section) : String :=
  "\n".intercalate (ss.map Section.render)

inductive Role where
  | system
  | user
  | assistant
  deriving DecidableEq

namespace Role

def name : Role → String
  | system => "system"
  | user => "user"
  | assistant => "assistant"

def ofName? (s : String) : Option Role :=
  [system, user, assistant].find? (·.name = s)

def ofJson? (j : Json) : Option Role :=
  j.name?.bind ofName?

end Role

structure Message where
  role : Role
  content : String

namespace Message

def toJson (m : Message) : Json :=
  .record [("role", .text m.role.name), ("content", .text m.content)]

def ofJson? (j : Json) : Option Message := do
  match ← j.slots ["role", "content"] with
  | [r, c] => return ⟨← r.required Role.ofJson?, ← c.required Json.text?⟩
  | _ => none

end Message

/-- How much a model is to reason. -/
inductive Effort where
  | low
  | medium
  | high
  deriving DecidableEq

namespace Effort

def name : Effort → String
  | low => "low"
  | medium => "medium"
  | high => "high"

def ofName? (s : String) : Option Effort :=
  [low, medium, high].find? (·.name = s)

def ofJson? (j : Json) : Option Effort :=
  j.name?.bind ofName?

end Effort

/-- A request for a text, or for the number of tokens that such a request reads. -/
structure TextRequest where
  model : String
  instructions : String
  sections : List Section
  effort : Option Effort
  /-- The caller's own key. -/
  apiKey : Option String
  maxOutputTokens : Option Nat
  /-- The part of the program that asks. -/
  caller : String
  deriving DecidableEq

namespace TextRequest

def messages (r : TextRequest) : List Message :=
  [⟨.system, r.instructions⟩, ⟨.user, renderSections r.sections⟩]

end TextRequest

end ArchDiagram
