import ArchDiagram.Run.Pipeline

/-!
# Rehearsals

In a rehearsal the collaborators answer from a script: always the same snapshot and count, and one
text and one verdict after another.  Where the script of texts ends they are empty, and where that
of verdicts ends diagrams are accepted.

* `Rehearsal.team`: the collaborators that follow a script.
* `stepsRead`: how far a run has come when its listener has read some events and leaves.
-/

namespace ArchDiagram

structure Rehearsal where
  snapshot : Answer SnapshotError Snapshot
  tokens : Answer ProviderError Nat
  texts : List (Answer ProviderError TextStream)
  verdicts : List (Answer Empty Verdict)

namespace Rehearsal

def nextText (r : Rehearsal) : Answer ProviderError TextStream × Rehearsal :=
  match r.texts with
  | [] => (.ok ⟨[], .finished⟩, r)
  | t :: ts => (t, { r with texts := ts })

def nextVerdict (r : Rehearsal) : Answer Empty Verdict × Rehearsal :=
  match r.verdicts with
  | [] => (.ok .accepted, r)
  | v :: vs => (v, { r with verdicts := vs })

def team : Team Rehearsal where
  fetch _ _ _ r := (r.snapshot, r)
  count _ r := (r.tokens, r)
  generate _ r := r.nextText
  check _ r := r.nextVerdict

end Rehearsal

/-- How many events a run may be ahead of its listener. -/
def eventBuffer : Nat := 64

/-- The steps of a run until its listener, who reads `wanted` events, leaves.  The run goes on until
it has to wait: for a pause, or for room among the events that the listener has not read.  Only then
the listener reads; `sent` events have been emitted and `read` of them have been read. -/
def stepsRead (wanted sent read : Nat) : List Step → List Step
  | [] => []
  | s :: ss =>
    match s with
    | .emit _ =>
      if eventBuffer ≤ sent - read then
        if wanted ≤ sent then [] else s :: stepsRead wanted (sent + 1) sent ss
      else s :: stepsRead wanted (sent + 1) read ss
    | .pause _ => if wanted ≤ sent then [] else s :: stepsRead wanted sent sent ss
    | _ => s :: stepsRead wanted sent read ss

end ArchDiagram
