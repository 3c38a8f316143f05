import ArchDiagram.Proofs.Run.Generation
import ArchDiagram.Run.Repair

/-!
# The course of a repair

A diagram is checked (`Checking`).  While it is rejected and attempts are left it goes through
rounds (`Round`): the attempt is announced, a repaired diagram is asked for, and that one is checked
in its place.  `Repairing` puts the rounds together, `Ensuring` adds what stands before and after
them.

* `Run.Round`, `Run.Repairing`, `Run.Ensuring`: the courses of a repair.
* `follows_repairLoop`, `follows_ensureValid`: repairs keep to these courses.
-/

namespace ArchDiagram

variable {σ : Type} {t : Team σ} {l : Listener}

abbrev fixChunk (i n : Nat) (c : String) : Event :=
  .diagramFixChunk c i n

namespace Run

inductive Checking (diagram : String) : Course Verdict
  | judged (v : Verdict) : Checking diagram [.check diagram (.ok v)] (.ok v)
  | panic : Checking diagram [.check diagram .panic] (.error .panicked)

theorem follows_check (p : Setting σ) (diagram : String) :
    (check p diagram).Follows p.team l (Checking diagram) := by
  refine (follows_ask (.check diagram) (p.team.check diagram) (fun _ => rfl) (fun s => ⟨s, rfl⟩)
    nofun).mono ?_
  rintro steps out (v | @⟨a, h, ha⟩)
  · exact .judged v
  · cases a with
    | ok v => cases ha
    | error e => exact e.elim
    | panic =>
      cases ha
      exact .panic

/-! ## One attempt -/

section

variable (p : Setting σ) (apiKey : Option String) (f : Findings)

/-- How the repaired diagram of the attempt `i` is asked for and passed on. -/
abbrev Mending (i : Nat) (diagram : String) (v : Verdict) : Course String :=
  Generating (repairRequest p.model apiKey f diagram v.feedback) (fixChunk i p.maxRepairs)

/-- The attempt `i` to repair a diagram that got the verdict `v`. -/
inductive Round (i : Nat) (diagram : String) (v : Verdict) : Course (String × Verdict)
  | judged {steps : List Step} {answer repaired : String} (v' : Verdict) :
      Mending p apiKey f i diagram v steps (.ok answer) → repaired = Diagram.stripFences answer →
      Round i diagram v (.emit (v.attemptEvent i p.maxRepairs) :: (steps ++
        [.emit (validatingEvent i p.maxRepairs), .check repaired (.ok v')])) (.ok (repaired, v'))
  | unchecked {steps : List Step} {answer repaired : String} :
      Mending p apiKey f i diagram v steps (.ok answer) → repaired = Diagram.stripFences answer →
      Round i diagram v (.emit (v.attemptEvent i p.maxRepairs) :: (steps ++
        [.emit (validatingEvent i p.maxRepairs), .check repaired .panic])) (.error .panicked)
  | unmended {steps : List Step} {h : Halt} :
      Mending p apiKey f i diagram v steps (.error h) →
      Round i diagram v (.emit (v.attemptEvent i p.maxRepairs) :: steps) (.error h)
  | unheard : Round i diagram v [] (.error (.failed .disconnected))
  | unheardAfter {steps : List Step} {answer : String} :
      Mending p apiKey f i diagram v steps (.ok answer) →
      Round i diagram v (.emit (v.attemptEvent i p.maxRepairs) :: steps)
        (.error (.failed .disconnected))

end

variable {p : Setting σ} {apiKey : Option String} {f : Findings}

theorem follows_repairOnce (i : Nat) (diagram : String) (v : Verdict) :
    (repairOnce p l apiKey f i diagram v).Follows p.team l (Round p apiKey f i diagram v) := by
  refine (follows_emit rfl).bind ?_ ?_
  · rintro steps h ⟨⟩
    exact .unheard
  · rintro steps ⟨⟩ ⟨⟩
    refine (follows_generate fun _ => rfl).bind ?_ ?_
    · intro steps h hm
      exact .unmended hm
    · intro steps answer hm
      refine (follows_emit rfl).bind ?_ ?_
      · rintro more h ⟨⟩
        simpa using Round.unheardAfter hm
      · rintro more ⟨⟩ ⟨⟩
        refine (follows_check p (Diagram.stripFences answer)).bind ?_ ?_
        · rintro more h ⟨⟩
          simpa using Round.unchecked hm rfl
        · rintro more v' ⟨⟩
          exact follows_pure _ (by simpa using Round.judged v' hm rfl)

/-! ## All attempts -/

/-- Attempts to repair a diagram with the verdict `v`, the next one being the attempt `i`, while
some are left. -/
inductive Repairing (p : Setting σ) (apiKey : Option String) (f : Findings) :
    Nat → String → Verdict → Nat → Course (String × Verdict)
  | rest {i : Nat} {diagram : String} {v : Verdict} {left : Nat} : v.valid = true ∨ left = 0 →
      Repairing p apiKey f i diagram v left [] (.ok (diagram, v))
  | halted {i : Nat} {diagram : String} {v : Verdict} {left : Nat} {steps : List Step} {h : Halt} :
      v.valid = false → Round p apiKey f i diagram v steps (.error h) →
      Repairing p apiKey f i diagram v (left + 1) steps (.error h)
  | next {i : Nat} {diagram : String} {v : Verdict} {left : Nat} {steps more : List Step}
      {d : String × Verdict} {out : Except Halt (String × Verdict)} :
      v.valid = false → Round p apiKey f i diagram v steps (.ok d) →
      Repairing p apiKey f (i + 1) d.1 d.2 left more out →
      Repairing p apiKey f i diagram v (left + 1) (steps ++ more) out

theorem follows_repairLoop (left i : Nat) (diagram : String) (v : Verdict) :
    (repairLoop p l apiKey f i diagram v left).Follows p.team l
      (Repairing p apiKey f i diagram v left) := by
  induction left generalizing i diagram v with
  | zero => exact follows_pure _ (.rest (Or.inr rfl))
  | succ left ih =>
    rw [repairLoop]
    cases hv : v.valid with
    | true => exact follows_pure _ (.rest (Or.inl hv))
    | false =>
      refine (follows_repairOnce i diagram v).bind ?_ ?_
      · intro steps h hr
        exact .halted hv hr
      · intro steps d hr
        exact (ih (i + 1) d.1 d.2).mono fun more out hm => .next hv hr hm

/-! ## The check before and the word after -/

/-- A diagram is made valid: it is accepted as it is, or after its repair, or it cannot be
repaired. -/
inductive Ensuring (p : Setting σ) (apiKey : Option String) (f : Findings) (diagram : String) :
    Course String
  | unchecked : Ensuring p apiKey f diagram [.check diagram .panic] (.error .panicked)
  | accepted {v : Verdict} : v.valid = true →
      Ensuring p apiKey f diagram [.check diagram (.ok v)] (.ok diagram)
  | unheard {v : Verdict} : v.valid = false →
      Ensuring p apiKey f diagram [.check diagram (.ok v)] (.error (.failed .disconnected))
  | halted {v : Verdict} {steps : List Step} {h : Halt} : v.valid = false →
      Repairing p apiKey f 1 diagram v p.maxRepairs steps (.error h) →
      Ensuring p apiKey f diagram (.check diagram (.ok v) :: .emit v.fixingEvent :: steps)
        (.error h)
  | unresolved {v : Verdict} {steps : List Step} {d : String × Verdict} : v.valid = false →
      Repairing p apiKey f 1 diagram v p.maxRepairs steps (.ok d) → d.2.valid = false →
      Ensuring p apiKey f diagram (.check diagram (.ok v) :: .emit v.fixingEvent :: steps)
        (.error (.failed (.unresolved d.2.feedback)))
  | unheardAfter {v : Verdict} {steps : List Step} {d : String × Verdict} : v.valid = false →
      Repairing p apiKey f 1 diagram v p.maxRepairs steps (.ok d) → d.2.valid = true →
      Ensuring p apiKey f diagram (.check diagram (.ok v) :: .emit v.fixingEvent :: steps)
        (.error (.failed .disconnected))
  | repaired {v : Verdict} {steps : List Step} {d : String × Verdict} : v.valid = false →
      Repairing p apiKey f 1 diagram v p.maxRepairs steps (.ok d) → d.2.valid = true →
      Ensuring p apiKey f diagram
        (.check diagram (.ok v) :: .emit v.fixingEvent :: (steps ++ [.emit fixedEvent])) (.ok d.1)

theorem follows_ensureValid (diagram : String) :
    (ensureValid p l apiKey f diagram).Follows p.team l (Ensuring p apiKey f diagram) := by
  refine (follows_check p diagram).bind ?_ ?_
  · rintro steps h ⟨⟩
    exact .unchecked
  · rintro steps v ⟨⟩
    cases hv : v.valid with
    | true => exact follows_pure _ (.accepted hv)
    | false =>
      refine (follows_emit rfl).bind ?_ ?_
      · rintro steps h ⟨⟩
        exact .unheard hv
      · rintro steps ⟨⟩ ⟨⟩
        refine (follows_repairLoop p.maxRepairs 1 diagram v).bind ?_ ?_
        · intro steps h hr
          exact .halted hv hr
        · rintro steps ⟨last, verdict⟩ hr
          dsimp only
          cases hd : verdict.valid with
          | false =>
            exact follows_fail (by simp) (by simpa using Ensuring.unresolved hv hr hd)
          | true =>
            refine (follows_emit rfl).bind ?_ ?_
            · rintro more h ⟨⟩
              simpa using Ensuring.unheardAfter hv hr hd
            · rintro more ⟨⟩ ⟨⟩
              exact follows_pure _ (by simpa using Ensuring.repaired hv hr hd)

end Run

end ArchDiagram
