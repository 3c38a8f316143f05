import ArchDiagram.Run.World

/-!
# Courses of a run

A course tells what a computation of a run may do: the steps it takes, the first one first, and how
it comes out.  `Run.Follows t l m C` says that `m` keeps to the course `C` wherever no terminal
event has been emitted yet.  It then emits none itself, the answers among its steps are answers of
the collaborators `t`, and it halts for want of a listener only where `l` may leave.

* `Run.Follows.bind`: one computation after another.
* `Run.follows_emit`, `Run.follows_consult`, `Run.follows_ask`, `Run.follows_pause`: the steps a run
  is made of.

Whatever a later file says about runs, it says about courses; the functions of a run are opened
once, where they are shown to keep to theirs.
-/

namespace ArchDiagram

/-- What a computation may do: its steps, the first one first, and how it comes out. -/
abbrev Course (α : Type) := List Step → Except Halt α → Prop

variable {σ α β ε : Type}

/-! ## Collaborators -/

/-- The answer that a step records is one of the collaborators'. -/
def Team.Gives (t : Team σ) : Step → Prop
  | .fetch o r c a => ∃ s, (t.fetch o r c s).1 = a
  | .count r a => ∃ s, (t.count r s).1 = a
  | .generate r a => ∃ s, (t.generate r s).1 = a
  | .check d a => ∃ s, (t.check d s).1 = a
  | .pause _ | .emit _ => True

def Answer.taken : Answer ε α → Except Halt (Except ε α)
  | .ok a => .ok (.ok a)
  | .error e => .ok (.error e)
  | .panic => .error .panicked

theorem Answer.eq_panicked_of_taken {a : Answer ε α} {h : Halt} (ha : a.taken = .error h) :
    h = .panicked := by
  cases a <;> cases ha
  rfl

/-- Why an answer halts a run that cannot do without it. -/
def Answer.halt? (failure : ε → Failure) : Answer ε α → Option Halt
  | .ok _ => none
  | .error e => some (.failed (failure e))
  | .panic => some .panicked

/-! ## Histories -/

theorem History.isOver_append {steps : List Step} {h : History}
    (hs : ∀ s ∈ steps, s.isTerminal = false) (hh : h.isOver = false) :
    History.isOver (steps.reverse ++ h) = false := by
  simp only [History.isOver, List.any_append, List.any_reverse, Bool.or_eq_false_iff,
    List.any_eq_false]
  exact ⟨fun s hm => by simp [hs s hm], by simpa [History.isOver] using hh⟩

@[simp] theorem Step.isTerminal_emit (e : Event) : (Step.emit e).isTerminal = e.isTerminal := rfl

/-- The pause of a given time, none if there is nothing to wait for. -/
def pauses (d : Duration) : List Step :=
  if d.nanoseconds = 0 then [] else [.pause ⟨min d.nanoseconds Run.longestPause.nanoseconds⟩]

/-! ## Keeping to a course -/

namespace Run

/-- What `m` does in the world `w`, where these are its steps. -/
structure Passes (t : Team σ) (l : Listener) (m : Run σ α) (w : World σ) (steps : List Step) :
    Prop where
  history : (m w).2.history = steps.reverse ++ w.history
  /-- No step emits a terminal event. -/
  quiet : ∀ s ∈ steps, s.isTerminal = false
  given : ∀ s ∈ steps, t.Gives s
  heard : l = .loyal → (m w).1 ≠ .error (.failed .disconnected)

theorem passes_of_eq {t : Team σ} {l : Listener} {m : Run σ α} {w w' : World σ}
    {out : Except Halt α} {steps : List Step} (hm : m w = (out, w'))
    (hh : w'.history = steps.reverse ++ w.history) (hq : ∀ s ∈ steps, s.isTerminal = false)
    (hg : ∀ s ∈ steps, t.Gives s) (ho : l = .loyal → out ≠ .error (.failed .disconnected)) :
    m.Passes t l w steps := by
  refine ⟨?_, hq, hg, ?_⟩
  · rw [hm]; exact hh
  · rw [hm]; exact ho

/-- Where no terminal event has been emitted, `m` keeps to the course `C`. -/
def Follows (t : Team σ) (l : Listener) (m : Run σ α) (C : Course α) : Prop :=
  ∀ w : World σ, w.history.isOver = false → ∃ steps, m.Passes t l w steps ∧ C steps (m w).1

variable {t : Team σ} {l : Listener} {m : Run σ α} {f : α → Run σ β}

theorem bind_apply (m : Run σ α) (f : α → Run σ β) (w : World σ) :
    (m >>= f) w = match m w with
      | (.ok a, w') => f a w'
      | (.error h, w') => (.error h, w') := rfl

theorem Follows.mono {C D : Course α} (hm : m.Follows t l C)
    (h : ∀ steps out, C steps out → D steps out) : m.Follows t l D := by
  intro w hw
  obtain ⟨steps, hp, hc⟩ := hm w hw
  exact ⟨steps, hp, h _ _ hc⟩

theorem follows_pure {C : Course α} (a : α) (h : C [] (.ok a)) :
    (pure a : Run σ α).Follows t l C := by
  intro w _
  exact ⟨[], ⟨rfl, by simp, by simp, fun _ => nofun⟩, h⟩

theorem follows_halt {C : Course α} {h : Halt} (hh : h ≠ .failed .disconnected)
    (hc : C [] (.error h)) : (halt h : Run σ α).Follows t l C := by
  intro w _
  refine ⟨[], ⟨rfl, by simp, by simp, fun _ he => hh ?_⟩, hc⟩
  exact Except.error.inj he

theorem follows_fail {C : Course α} {f : Failure} (hf : f ≠ .disconnected)
    (hc : C [] (.error (.failed f))) : (fail f : Run σ α).Follows t l C :=
  follows_halt (by simpa using hf) hc

/-- **One computation after another**: what halts is not continued, and what goes on goes on after
the steps that were taken. -/
theorem Follows.bind {C : Course α} {D : Course β} (hm : m.Follows t l C)
    (stop : ∀ steps h, C steps (.error h) → D steps (.error h))
    (go : ∀ steps a, C steps (.ok a) → (f a).Follows t l (fun more => D (steps ++ more))) :
    (m >>= f).Follows t l D := by
  intro w hw
  obtain ⟨steps, hp, hc⟩ := hm w hw
  cases hmw : m w with
  | mk out w₁ =>
    have hh : w₁.history = steps.reverse ++ w.history := by simpa [hmw] using hp.history
    cases out with
    | error h =>
      have hbind : (m >>= f) w = (.error h, w₁) := by rw [bind_apply, hmw]
      refine ⟨steps, ⟨?_, hp.quiet, hp.given, ?_⟩, ?_⟩
      · rw [hbind]; exact hh
      · rw [hbind]
        intro hl he
        exact hp.heard hl (by rw [hmw, Except.error.inj he])
      · rw [hbind]
        exact stop steps h (by simpa [hmw] using hc)
    | ok a =>
      have hbind : (m >>= f) w = f a w₁ := by rw [bind_apply, hmw]
      have hopen : w₁.history.isOver = false := by
        rw [hh]; exact History.isOver_append hp.quiet hw
      obtain ⟨more, hq, hd⟩ := go steps a (by simpa [hmw] using hc) w₁ hopen
      refine ⟨steps ++ more, ⟨?_, ?_, ?_, ?_⟩, ?_⟩
      · rw [hbind, hq.history, hh, List.reverse_append, List.append_assoc]
      · intro s hs
        exact (List.mem_append.mp hs).elim (hp.quiet s) (hq.quiet s)
      · intro s hs
        exact (List.mem_append.mp hs).elim (hp.given s) (hq.given s)
      · rw [hbind]; exact hq.heard
      · rw [hbind]; exact hd

/-! ## The steps a run is made of -/

/-- An event is emitted, unless nobody listens. -/
inductive Emitting (e : Event) : Course Unit
  | heard : Emitting e [.emit e] (.ok ())
  | unheard : Emitting e [] (.error (.failed .disconnected))

theorem emit_of_heard {e : Event} {w : World σ} (hw : w.history.isOver = false)
    (hl : l w.history = true) :
    emit l e w = (.ok (), { w with history := .emit e :: w.history }) := by
  simp [emit, Listener.offer, hw, hl, Emission.failure?, Emission.refusal?, note]

theorem emit_of_unheard {e : Event} {w : World σ} (hw : w.history.isOver = false)
    (hl : l w.history = false) : emit l e w = (.error (.failed .disconnected), w) := by
  simp [emit, Listener.offer, hw, hl, Emission.failure?, fail, halt]

theorem follows_emit {e : Event} (he : e.isTerminal = false) :
    (emit l e : Run σ Unit).Follows t l (Emitting e) := by
  intro w hw
  cases hl : l w.history with
  | true =>
    refine ⟨[.emit e], passes_of_eq (emit_of_heard hw hl) rfl ?_ ?_ (fun _ => nofun), ?_⟩
    · simp [he]
    · simp [Team.Gives]
    · rw [emit_of_heard hw hl]
      exact .heard
  | false =>
    refine ⟨[], passes_of_eq (emit_of_unheard hw hl) rfl ?_ ?_ ?_, ?_⟩
    · simp
    · simp
    · rintro rfl
      cases hl
    · rw [emit_of_unheard hw hl]
      exact .unheard

/-- A collaborator is asked, and its failure is an answer. -/
inductive Consulting (step : Answer ε α → Step) : Course (Except ε α)
  | ok (a : α) : Consulting step [step (.ok a)] (.ok (.ok a))
  | error (e : ε) : Consulting step [step (.error e)] (.ok (.error e))
  | panic : Consulting step [step .panic] (.error .panicked)

theorem consult_apply (step : Answer ε α → Step) (question : σ → Answer ε α × σ) (w : World σ) :
    consult step question w = ((question w.state).1.taken,
      ⟨(question w.state).2, step (question w.state).1 :: w.history⟩) := by
  unfold consult
  rcases question w.state with ⟨_ | _ | _, state⟩ <;> rfl

theorem follows_consult (step : Answer ε α → Step) (question : σ → Answer ε α × σ)
    (hs : ∀ a, (step a).isTerminal = false) (hq : ∀ s, t.Gives (step (question s).1)) :
    (consult step question).Follows t l (Consulting step) := by
  intro w _
  have happly := consult_apply step question w
  refine ⟨[step (question w.state).1], passes_of_eq happly rfl ?_ ?_ ?_, ?_⟩
  · simpa using hs _
  · simpa using hq _
  · intro _ he
    cases Answer.eq_panicked_of_taken he
  · rw [happly]
    cases (question w.state).1 with
    | ok a => exact .ok a
    | error e => exact .error e
    | panic => exact .panic

/-- A collaborator is asked, and its failure is the run's. -/
inductive Asking (step : Answer ε α → Step) (failure : ε → Failure) : Course α
  | ok (a : α) : Asking step failure [step (.ok a)] (.ok a)
  | halted {a : Answer ε α} {h : Halt} : a.halt? failure = some h →
      Asking step failure [step a] (.error h)

theorem follows_ask (step : Answer ε α → Step) (question : σ → Answer ε α × σ)
    {failure : ε → Failure} (hs : ∀ a, (step a).isTerminal = false)
    (hq : ∀ s, t.Gives (step (question s).1)) (hf : ∀ e, failure e ≠ .disconnected) :
    (ask step question failure).Follows t l (Asking step failure) := by
  refine (follows_consult step question hs hq).bind ?_ ?_
  · rintro steps h ⟨⟩
    exact .halted rfl
  · rintro steps a ⟨⟩
    · exact follows_pure _ (.ok _)
    · exact follows_fail (hf _) (.halted rfl)

section

variable {step : Answer ε α → Step} {question : σ → Answer ε α × σ} {failure : ε → Failure}
  {w : World σ}

theorem ask_bind {x : α} (h : (question w.state).1 = .ok x) :
    (ask step question failure >>= f) w =
      f x ⟨(question w.state).2, step (.ok x) :: w.history⟩ := by
  rw [bind_apply, ask, bind_apply, consult_apply, h]
  rfl

theorem ask_bind_halt {a : Answer ε α} {h : Halt} (ha : (question w.state).1 = a)
    (hh : a.halt? failure = some h) : (ask step question failure >>= f) w =
      (.error h, ⟨(question w.state).2, step a :: w.history⟩) := by
  rw [bind_apply, ask, bind_apply, consult_apply, ha]
  cases a <;> cases hh <;> rfl

end

theorem follows_pause (d : Duration) :
    (pause d : Run σ Unit).Follows t l (fun steps out => steps = pauses d ∧ out = .ok ()) := by
  intro w _
  by_cases hd : d.nanoseconds = 0
  · refine ⟨[], ⟨?_, by simp, by simp, ?_⟩, ?_⟩ <;> simp [pause, pauses, hd, pure]
  · refine ⟨pauses d, ⟨?_, ?_, ?_, ?_⟩, ?_⟩ <;>
      simp [pause, pauses, hd, note, Step.isTerminal, Step.event?, Team.Gives]

end Run

end ArchDiagram
