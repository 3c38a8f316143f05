import ArchDiagram.Pricing.Rate
import ArchDiagram.Text.Digit
import ArchDiagram.Text.Lowercase
import ArchDiagram.Text.Blank

/-!
# Model families

Models are priced by family.  A model belongs to the family whose prefix is the longest among those
that start its name, where the name is trimmed, in lower case and without the date of a snapshot; a
name that no prefix starts belongs to the default family.

* `dropDate`: a name without a snapshot date at its end.
* `familyOf`: the family of a model.
* `rateOf?`: the rate of a family.
-/

namespace ArchDiagram.Pricing

open Text

def defaultFamily : String :=
  "gpt-5.2"

def defaultRate : Rate :=
  ⟨1.75, 14.0⟩

def rates : List (String × Rate) :=
  [("gpt-5.2", defaultRate),
   ("gpt-5.2-chat-latest", defaultRate),
   ("gpt-5.2-codex", defaultRate),
   ("gpt-5.2-pro", ⟨21.0, 168.0⟩),
   ("gpt-5.1", ⟨1.25, 10.0⟩),
   ("gpt-5", ⟨1.25, 10.0⟩),
   ("gpt-5-mini", ⟨0.25, 2.0⟩),
   ("gpt-5-nano", ⟨0.05, 0.4⟩),
   ("o4-mini", ⟨1.1, 4.4⟩)]

/-- The prefixes of model names and the families they stand for. -/
def familyPrefixes : List (String × String) :=
  [("gpt-5.2-pro", "gpt-5.2-pro"),
   ("gpt-5.2-codex", "gpt-5.2-codex"),
   ("gpt-5.2-chat", "gpt-5.2-chat-latest"),
   ("gpt-5.2", "gpt-5.2"),
   ("gpt-5.1", "gpt-5.1"),
   ("gpt-5-mini", "gpt-5-mini"),
   ("gpt-5-nano", "gpt-5-nano"),
   ("gpt-5", "gpt-5"),
   ("o4-mini", "o4-mini")]

def rateOf? (family : String) : Option Rate :=
  rates.lookup family

/-- The number of characters of a date at the end of a name. -/
def dateLength : Nat := 11

/-- Whether characters are a hyphen and a date: four digits, two digits and two digits of any
script, with hyphens between them. -/
def isDate : List Char → Bool
  | [h₁, a, b, c, d, h₂, e, f, h₃, g, i] =>
    h₁ == '-' && h₂ == '-' && h₃ == '-' && [a, b, c, d, e, f, g, i].all isDecimalDigit
  | _ => false

def dropDateChars (cs : List Char) : List Char :=
  let front := cs.length - dateLength
  if isDate (cs.drop front) then cs.take front else cs

def dropDate (model : String) : String :=
  String.ofList (dropDateChars model.toList)

/-- A model name trimmed and in lower case. -/
def normalName (model : String) : List Char :=
  lowercase (trimBy isBlank model.toList)

/-- Of two entries the one with the longer prefix, the second one of two equally long ones. -/
def longer (a b : String × String) : String × String :=
  if b.1.length < a.1.length then a else b

/-- The entry of a table with the longest prefix of a name. -/
def longestPrefix? (table : List (String × String)) (name : List Char) :
    Option (String × String) :=
  (table.filter fun e => (dropFront? e.1.toList name).isSome).foldl
    (fun best e => some ((best.map (longer · e)).getD e)) none

def familyByPrefix (table : List (String × String)) (name : List Char) : String :=
  ((longestPrefix? table name).map (·.2)).getD defaultFamily

def familyBy (table : List (String × String)) (model : String) : String :=
  let name := normalName model
  let undated := dropDateChars name
  if (rateOf? (String.ofList name)).isSome then String.ofList name
  else if (rateOf? (String.ofList undated)).isSome then String.ofList undated
  else familyByPrefix table undated

def familyOf (model : String) : String :=
  familyBy familyPrefixes model

def priceOf (model : String) : String × Rate :=
  let family := familyOf model
  (family, (rateOf? family).getD defaultRate)

end ArchDiagram.Pricing
