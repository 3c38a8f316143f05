import ArchDiagram.Json.Basic

/-!
# Records in JSON

A record with given fields is written as an object, in any order and among members of other names,
or as an array of its fields in order.  An object names no field twice; an array has no more items
than the record has fields.

* `Json.slots`: where the fields of a record stand in a value.
* `Slot.required`, `Slot.optional`, `Slot.orElse`: reading a field.
-/

namespace ArchDiagram

inductive Slot where
  | given (v : Json)
  /-- An object does not name the field. -/
  | unnamed
  /-- An array ends before the field. -/
  | beyond

namespace Slot

def required {α : Type} (read : Json → Option α) : Slot → Option α
  | .given v => read v
  | _ => none

/-- A field that may be `null`, and that an object may leave out. -/
def optional {α : Type} (read : Json → Option α) : Slot → Option (Option α)
  | .given .null => some none
  | .given v => (read v).map some
  | .unnamed => some none
  | .beyond => none

/-- A field that stands for `default` where it is left out. -/
def orElse {α : Type} (default : α) (read : Json → Option α) : Slot → Option α
  | .given v => read v
  | _ => some default

/-- A field that may be `null` or left out. -/
def orNull {α : Type} (read : Json → Option α) : Slot → Option (Option α)
  | .given .null => some none
  | .given v => (read v).map some
  | _ => some none

end Slot

namespace Json

/-- The place of one field among the members of an object, none if it is named twice. -/
def slotNamed (ms : List (Option String × Json)) (name : String) : Option Slot :=
  match ms.filter (fun m => m.1 = some name) with
  | [] => some .unnamed
  | [m] => some (.given m.2)
  | _ => none

/-- The places of the fields in the items of an array. -/
def slotsListed : List String → List Json → Option (List Slot)
  | [], [] => some []
  | [], _ :: _ => none
  | _ :: names, [] => (slotsListed names []).map (.beyond :: ·)
  | _ :: names, v :: vs => (slotsListed names vs).map (.given v :: ·)

/-- The places of the fields of a record.  Every key of an object must denote a text. -/
def slots (names : List String) : Json → Option (List Slot)
  | .object ms => if ms.all (fun m => m.1.isSome) then names.mapM (slotNamed ms) else none
  | .array vs => slotsListed names vs
  | _ => none

end Json

end ArchDiagram
