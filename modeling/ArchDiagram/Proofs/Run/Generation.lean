import ArchDiagram.Proofs.Run.Course
import ArchDiagram.Run.Generation

/-!
# The courses of a text and of a stage

A text that is asked for is passed on increment by increment, empty ones left out, and what comes
out is all increments together (`Generating`).  A stage announces itself before (`Staging`).

* `increments`: the steps by which a text is passed on.
* `follows_generate`, `follows_runStage`: generation keeps to these courses.
-/

namespace ArchDiagram

variable {σ : Type} {t : Team σ} {l : Listener}

def Ending.halt? : Ending → Option Halt
  | .finished => none
  | .failed e => some (.failed (.provider e))
  | .panicked => some .panicked
  | .stalled => some .stalled

def increments (event : String → Event) (cs : List String) : List Step :=
  (cs.filter (· ≠ "")).map fun c => .emit (event c)

@[simp] theorem increments_nil (event : String → Event) : increments event [] = [] := rfl

theorem increments_cons_empty (event : String → Event) (cs : List String) :
    increments event ("" :: cs) = increments event cs := by
  simp [increments]

theorem increments_cons (event : String → Event) {c : String} (cs : List String) (hc : c ≠ "") :
    increments event (c :: cs) = .emit (event c) :: increments event cs := by
  simp [increments, hc]

/-- The steps by which a stage announces itself. -/
def Stage.opening (s : Stage) (p : Setting σ) : List Step :=
  .emit (s.sentEvent p.model) :: (pauses p.pacing ++ [.emit s.progressEvent])

@[simp] theorem Stage.isTerminal_chunkEvent (s : Stage) (c : String) :
    (s.chunkEvent c).isTerminal = false := by
  cases s <;> rfl

@[simp] theorem Stage.isTerminal_sentEvent (s : Stage) (model : String) :
    (s.sentEvent model).isTerminal = false := by
  cases s <;> rfl

@[simp] theorem Stage.isTerminal_progressEvent (s : Stage) :
    s.progressEvent.isTerminal = false := by
  cases s <;> rfl

namespace Run

/-! ## Texts -/

/-- A text is passed on after the text `output`. -/
inductive Forwarding (event : String → Event) (output : String) (cs : List String) : Course String
  | whole : Forwarding event output cs (increments event cs) (.ok (output ++ String.join cs))
  | unheard {front : List Step} : front <+: increments event cs →
      Forwarding event output cs front (.error (.failed .disconnected))

theorem follows_forward {event : String → Event} (he : ∀ c, (event c).isTerminal = false)
    (cs : List String) (output : String) :
    (forward l event output cs : Run σ String).Follows t l (Forwarding event output cs) := by
  induction cs generalizing output with
  | nil =>
    have hw : Forwarding event output [] _ _ := .whole
    exact follows_pure _ (by simpa using hw)
  | cons c cs ih =>
    by_cases hc : c = ""
    · subst hc
      rw [forward, if_pos rfl]
      refine (ih output).mono ?_
      rintro steps out (_ | hp)
      · have hw : Forwarding event output ("" :: cs) _ _ := .whole
        simpa [increments_cons_empty] using hw
      · exact .unheard (by rwa [increments_cons_empty])
    · rw [forward, if_neg hc]
      refine (follows_emit (he c)).bind ?_ ?_
      · rintro steps h ⟨⟩
        exact .unheard List.nil_prefix
      · rintro steps ⟨⟩ ⟨⟩
        refine (ih (output ++ c)).mono ?_
        rintro steps out (_ | hp)
        · have hw : Forwarding event output (c :: cs) _ _ := .whole
          simpa [increments_cons event cs hc, String.append_assoc] using hw
        · refine .unheard ?_
          rw [increments_cons event cs hc]
          exact (List.prefix_cons_inj _).mpr hp

/-- A text is asked for and passed on: it comes to its end, it cannot be opened, it is cut off, or
nobody listens any more. -/
inductive Generating (r : TextRequest) (event : String → Event) : Course String
  | whole (cs : List String) :
      Generating r event (.generate r (.ok ⟨cs, .finished⟩) :: increments event cs)
        (.ok (String.join cs))
  | unopened {a : Answer ProviderError TextStream} {h : Halt} : a.halt? .provider = some h →
      Generating r event [.generate r a] (.error h)
  | cut {x : TextStream} {h : Halt} : x.ending.halt? = some h →
      Generating r event (.generate r (.ok x) :: increments event x.increments) (.error h)
  | unheard {x : TextStream} {front : List Step} : front <+: increments event x.increments →
      Generating r event (.generate r (.ok x) :: front) (.error (.failed .disconnected))

theorem follows_generate {p : Setting σ} {r : TextRequest} {event : String → Event}
    (he : ∀ c, (event c).isTerminal = false) :
    (generate p l r event).Follows p.team l (Generating r event) := by
  refine (follows_ask (.generate r) (p.team.generate r) (fun _ => rfl) (fun s => ⟨s, rfl⟩)
    (by simp)).bind ?_ ?_
  · rintro steps h (_ | ha)
    exact .unopened ha
  · rintro steps x ⟨⟩
    refine (follows_forward he x.increments "").bind ?_ ?_
    · rintro steps h (_ | hp)
      exact .unheard hp
    · rintro steps output ⟨⟩
      obtain ⟨cs, ending⟩ := x
      cases ending with
      | finished => exact follows_pure _ (by simpa using Generating.whole cs)
      | failed e =>
        exact follows_fail (by simp) (by simpa using Generating.cut (x := ⟨cs, .failed e⟩) rfl)
      | panicked =>
        exact follows_halt (by simp) (by simpa using Generating.cut (x := ⟨cs, .panicked⟩) rfl)
      | stalled =>
        exact follows_halt (by simp) (by simpa using Generating.cut (x := ⟨cs, .stalled⟩) rfl)

/-! ## Stages -/

/-- A stage announces itself and generates its text. -/
inductive Staging (p : Setting σ) (s : Stage) (sections : List Section) (apiKey : Option String) :
    Course String
  | opened {steps : List Step} {out : Except Halt String} :
      Generating (s.request p.model sections apiKey) s.chunkEvent steps out →
      Staging p s sections apiKey (s.opening p ++ steps) out
  | unheard {front : List Step} : front <+: s.opening p →
      Staging p s sections apiKey front (.error (.failed .disconnected))

theorem follows_runStage {p : Setting σ} {s : Stage} {sections : List Section}
    {apiKey : Option String} :
    (runStage p l s sections apiKey).Follows p.team l (Staging p s sections apiKey) := by
  refine (follows_emit (s.isTerminal_sentEvent p.model)).bind ?_ ?_
  · rintro steps h ⟨⟩
    exact .unheard List.nil_prefix
  · rintro steps ⟨⟩ ⟨⟩
    refine (follows_pause p.pacing).bind (by simp) ?_
    rintro steps ⟨⟩ ⟨rfl, -⟩
    refine (follows_emit s.isTerminal_progressEvent).bind ?_ ?_
    · rintro steps h ⟨⟩
      refine .unheard ?_
      simp [Stage.opening]
    · rintro steps ⟨⟩ ⟨⟩
      refine (follows_generate s.isTerminal_chunkEvent).mono ?_
      intro steps out hg
      simpa [Stage.opening] using Staging.opened hg

end Run

end ArchDiagram
