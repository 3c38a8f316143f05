import ArchDiagram.Proofs.Run.Parallel
import ArchDiagram.Proofs.Run.Pipeline

/-!
# Invariants of runs

A property of steps, and of how they halt the run, is an invariant if whatever a run does at once
has it, be it an event, a pause or a question to a collaborator, and if it is kept when more steps
follow on steps that did not halt.  Then the whole run has it.

* `Invariant`: such a property.
* `Invariant.diagram`, `Invariant.executed`: **the steps of a run have it**.
-/

namespace ArchDiagram

variable {σ α : Type} {l : Listener} {p : Setting σ} {r : DiagramRequest}

/-- Why a computation that comes out like this halts. -/
def haltOf : Except Halt α → Option Halt
  | .ok _ => none
  | .error h => some h

/-- A property of the steps of a computation, and of why it halts, that goes through the runs for a
request. -/
structure Invariant (r : DiagramRequest) (P : List Step → Option Halt → Prop) : Prop where
  nil : P [] none
  append {a b : List Step} {h : Option Halt} : P a none → P b h → P (a ++ b) h
  rejected (x : Gate.Rejection) : P [] (some (.failed (.rejected x)))
  unresolved (feedback : String) : P [] (some (.failed (.unresolved feedback)))
  unheard : P [] (some (.failed .disconnected))
  emit (e : Event) : e.isTerminal = false → P [.emit e] none
  pause (d : Duration) : P [.pause d] none
  fetch (a : Answer SnapshotError Snapshot) :
    P [.fetch r.owner r.repo r.hostToken a] (a.halt? .snapshot)
  /-- A count that fails does not halt the run. -/
  count (q : TextRequest) (a : Answer ProviderError Nat) : P [.count q a] (haltOf a.taken)
  generate {q : TextRequest} {k : Occasion} {steps : List Step} {out : Except Halt String} :
    q.caller = k.caller → q.apiKey = r.apiKey → Run.Generating q k.chunk steps out →
    P steps (haltOf out)
  check (diagram : String) (a : Answer Empty Verdict) : P [.check diagram a] (a.halt? nofun)

namespace Invariant

open Run

variable {P : List Step → Option Halt → Prop}

theorem pauses (hP : Invariant r P) (d : Duration) : P (ArchDiagram.pauses d) none := by
  rw [ArchDiagram.pauses]
  split
  · exact hP.nil
  · exact hP.pause _

theorem measuring (hP : Invariant r P) {s : Snapshot} {steps : List Step} {out : Except Halt Nat}
    (h : Measuring p s r.apiKey steps out) : P steps (haltOf out) := by
  cases h with
  | counted n => exact hP.count _ (.ok n)
  | estimated e => exact hP.count _ (.error e)
  | panic => exact hP.count _ .panic

theorem alongside (hP : Invariant r P) :
    Alongside p p.team l l r r.apiKey r.hostToken
      fun m _ => m.Follows p.team l fun steps out => P steps (haltOf out) where
  pure a := follows_pure a hP.nil
  rejected x := follows_fail (by simp) (hP.rejected x)
  unresolved feedback := follows_fail (by simp) (hP.unresolved feedback)
  bind hm hf := by
    refine hm.bind (fun steps h hs => hs) fun steps a hs => ?_
    exact (hf a).mono fun more out hmore => hP.append hs hmore
  emit e he := by
    refine (follows_emit he).mono ?_
    rintro steps out (_ | _)
    · exact hP.emit e he
    · exact hP.unheard
  pause d := by
    refine (follows_pause d).mono ?_
    rintro steps out ⟨rfl, rfl⟩
    exact hP.pauses d
  fetch := by
    refine (follows_fetch p r).mono ?_
    rintro steps out (s | @⟨a, h, ha⟩)
    · exact hP.fetch (.ok s)
    · have hfetch := hP.fetch a
      rwa [ha] at hfetch
  measure s := (follows_measure p s r.apiKey).mono fun steps out h => hP.measuring h
  generate q k hk hq :=
    (follows_generate k.isTerminal_chunk).mono fun steps out h => hP.generate hk hq h
  check d := by
    refine (follows_check p d).mono ?_
    rintro steps out (v | _)
    · exact hP.check d (.ok v)
    · exact hP.check d .panic

/-- **The steps of a run up to its terminal event have every invariant.** -/
theorem diagram (hP : Invariant r P) :
    (Run.diagram p l r).Follows p.team l fun steps out => P steps (haltOf out) :=
  hP.alongside.diagram rfl

theorem executed (hP : Invariant r P) (s : σ) :
    P (Run.diagram p l r ⟨s, []⟩).2.history.reverse (haltOf (Run.diagram p l r ⟨s, []⟩).1) := by
  have hfollows : (Run.diagram p l r).Follows p.team l _ := hP.diagram
  obtain ⟨steps, hsteps, hp⟩ := hfollows ⟨s, []⟩ rfl
  have hhistory : (Run.diagram p l r ⟨s, []⟩).2.history.reverse = steps := by
    rw [hsteps.history, List.append_nil, List.reverse_reverse]
  rw [hhistory]
  exact hp

end Invariant

end ArchDiagram
