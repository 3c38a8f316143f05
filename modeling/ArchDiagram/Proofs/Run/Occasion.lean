import ArchDiagram.Proofs.Run.Repair

/-!
# What texts are generated for

A run generates a text for a stage or for an attempt to repair a diagram.  The occasion decides by
which events the text is passed on and how its request is signed.

* `Occasion.chunk`: the event for an increment of the text.
* `Event.passage?`: the occasion and the increment that such an event tells of.
-/

namespace ArchDiagram

/-- What a text is generated for. -/
inductive Occasion where
  | stage (s : Stage)
  /-- The attempt `i` of `n` to repair a diagram. -/
  | attempt (i n : Nat)
  deriving DecidableEq

def Occasion.chunk : Occasion → String → Event
  | stage s => s.chunkEvent
  | attempt i n => fixChunk i n

/-- How the request for a text is signed. -/
def Occasion.caller : Occasion → String
  | stage s => s.caller
  | attempt .. => "pipeline::repair"

/-- The occasion and the increment of an event that passes on an increment. -/
def Event.passage? : Event → Option (Occasion × String)
  | explanationChunk c => some (.stage .explanation, c)
  | mappingChunk c => some (.stage .mapping, c)
  | diagramChunk c => some (.stage .diagram, c)
  | diagramFixChunk c i n => some (.attempt i n, c)
  | _ => none

@[simp] theorem Occasion.passage?_chunk (k : Occasion) (c : String) :
    (k.chunk c).passage? = some (k, c) := by
  rcases k with (_ | _ | _) | ⟨i, n⟩ <;> rfl

@[simp] theorem Occasion.isTerminal_chunk (k : Occasion) (c : String) :
    (k.chunk c).isTerminal = false := by
  rcases k with s | ⟨i, n⟩
  · exact s.isTerminal_chunkEvent c
  · rfl

end ArchDiagram
