import ArchDiagram.Proofs.Run.Parallel
import ArchDiagram.Proofs.Run.Report

/-!
# Listeners that leave

A listener may leave at any moment.  The run notices it at the next event, and ends there: what it
does is what it would do with a listener that stays, cut off before the first event that finds the
listener gone.

* `stepsHeard`: steps, cut off before that event.
* `Run.Shortens l m m'`: under the listener `l`, `m` does what `m'` does until it is cut off, and
  then halts for want of a listener.  `Run.shortens_diagram` shows this of a run.
* `execute_eq_stepsHeard`: a whole run is cut off, its terminal event included.
* `execute_departure`: **a listener that leaves only shortens the run**.
-/

namespace ArchDiagram

variable {σ α β ε : Type} {l : Listener}

/-! ## Cutting off -/

/-- The steps after those of the past, up to the first event that finds the listener gone. -/
def stepsHeard (l : Listener) (past : History) : List Step → List Step
  | [] => []
  | s :: steps =>
    if s.event?.isSome ∧ l past = false then [] else s :: stepsHeard l (s :: past) steps

theorem stepsHeard_prefix (past : History) (steps : List Step) :
    stepsHeard l past steps <+: steps := by
  induction steps generalizing past with
  | nil => exact List.prefix_rfl
  | cons s steps ih =>
    rw [stepsHeard]
    split
    · exact List.nil_prefix
    · exact List.cons_prefix_cons.mpr ⟨rfl, ih (s :: past)⟩

/-- What is not cut off goes on, and what is cut off stays so. -/
theorem stepsHeard_append (past : History) (a b : List Step) :
    stepsHeard l past (a ++ b) = if stepsHeard l past a = a
      then a ++ stepsHeard l (a.reverse ++ past) b else stepsHeard l past a := by
  induction a generalizing past with
  | nil => simp [stepsHeard]
  | cons s a ih =>
    rw [List.cons_append, stepsHeard, stepsHeard]
    split
    · simp
    · rw [ih (s :: past)]
      by_cases ha : stepsHeard l (s :: past) a = a
      · simp [ha]
      · simp [ha]

theorem stepsHeard_append_ne {past : History} {a : List Step} (h : stepsHeard l past a ≠ a)
    (b : List Step) : stepsHeard l past (a ++ b) ≠ a ++ b := by
  intro he
  rw [stepsHeard_append, if_neg h] at he
  have hle : a ++ b <+: a := he ▸ stepsHeard_prefix past a
  have hab : a ++ b = a := hle.eq_of_length_le (by simp)
  exact h (he.trans hab)

theorem stepsHeard_of_silent {steps : List Step} (h : ∀ s ∈ steps, s.event? = none)
    (past : History) : stepsHeard l past steps = steps := by
  induction steps generalizing past with
  | nil => rfl
  | cons s steps ih =>
    have hs : s.event? = none := h s List.mem_cons_self
    rw [stepsHeard, if_neg (by simp [hs]), ih fun x hx => h x (List.mem_cons_of_mem _ hx)]

theorem listens_of_stepsHeard {past : History} {steps a b : List Step} {e : Event}
    (h : stepsHeard l past steps = a ++ .emit e :: b) : l (a.reverse ++ past) = true := by
  induction steps generalizing past a with
  | nil => exact absurd h (by simp [stepsHeard])
  | cons s steps ih =>
    rw [stepsHeard] at h
    split at h
    · exact absurd h (by simp)
    · rename_i hs
      cases a with
      | nil =>
        obtain ⟨rfl, -⟩ := List.cons.inj h
        simpa [Step.event?] using hs
      | cons s' a =>
        obtain ⟨rfl, ha⟩ := List.cons.inj h
        simpa using ih ha

/-- What is cut off begins with an event that finds the listener gone. -/
theorem stepsHeard_cut {past : History} {steps : List Step} (h : stepsHeard l past steps ≠ steps) :
    ∃ e rest, steps = stepsHeard l past steps ++ .emit e :: rest ∧
      l ((stepsHeard l past steps).reverse ++ past) = false := by
  induction steps generalizing past with
  | nil => exact absurd rfl h
  | cons s steps ih =>
    rw [stepsHeard] at h ⊢
    split at h
    · rename_i hs
      rw [if_pos hs]
      cases s with
      | emit e => exact ⟨e, steps, rfl, hs.2⟩
      | fetch | count | generate | check | pause => exact absurd hs.1 (by simp [Step.event?])
    · rename_i hs
      rw [if_neg hs]
      obtain ⟨e, rest, hsteps, hl⟩ := ih fun he => h (congrArg (s :: ·) he)
      exact ⟨e, rest, congrArg (s :: ·) hsteps, by simpa using hl⟩

/-! ## Computations that are cut off -/

namespace Run

/-- Under the listener `l`, `m` does in the world `w` what `m'` does, whose steps these are, until an
event finds the listener gone.  Then it halts. -/
structure Departs (l : Listener) (m m' : Run σ α) (w : World σ) (steps : List Step) : Prop where
  whole : (m' w).2.history = steps.reverse ++ w.history
  history : (m w).2.history = (stepsHeard l w.history steps).reverse ++ w.history
  heard : stepsHeard l w.history steps = steps → m w = m' w
  cut : stepsHeard l w.history steps ≠ steps → (m w).1 = .error (.failed .disconnected)

/-- In every world `m` does what `m'` does until an event finds the listener gone. -/
def Shortens (l : Listener) (m m' : Run σ α) : Prop :=
  ∀ w, ∃ steps, Departs l m m' w steps

theorem departs_of_eq {m m' : Run σ α} {w : World σ} {steps : List Step} (hm : m w = m' w)
    (hh : (m' w).2.history = steps.reverse ++ w.history)
    (hs : stepsHeard l w.history steps = steps) : Departs l m m' w steps :=
  ⟨hh, by rw [hm, hs, hh], fun _ => hm, fun hn => absurd hs hn⟩

theorem shortens_of_silent {m : Run σ α}
    (h : ∀ w, ∃ steps : List Step, (m w).2.history = steps.reverse ++ w.history ∧
      ∀ s ∈ steps, s.event? = none) : Shortens l m m := by
  intro w
  obtain ⟨steps, hh, hs⟩ := h w
  exact ⟨steps, departs_of_eq rfl hh (stepsHeard_of_silent hs _)⟩

theorem shortens_pure (a : α) : Shortens l (pure a : Run σ α) (pure a) :=
  shortens_of_silent fun _ => ⟨[], rfl, by simp⟩

theorem shortens_halt (h : Halt) : Shortens l (halt h : Run σ α) (halt h) :=
  shortens_of_silent fun _ => ⟨[], rfl, by simp⟩

/-- **One computation after another**: once the first one is cut off nothing follows. -/
theorem Shortens.bind {m m' : Run σ α} {f f' : α → Run σ β} (hm : Shortens l m m')
    (hf : ∀ a, Shortens l (f a) (f' a)) : Shortens l (m >>= f) (m' >>= f') := by
  intro w
  obtain ⟨a, ha⟩ := hm w
  by_cases hheard : stepsHeard l w.history a = a
  · -- Both computations come to the same world, from which both go on or neither does.
    have hmm := ha.heard hheard
    rcases hm' : m' w with ⟨h | x, w₁⟩
    · refine ⟨a, departs_of_eq ?_ ?_ hheard⟩
      · rw [bind_apply, bind_apply, hmm, hm']
      · rw [bind_apply, hm']
        simpa [hm'] using ha.whole
    · obtain ⟨b, hb⟩ := hf x w₁
      have hw : w₁.history = a.reverse ++ w.history := by simpa [hm'] using ha.whole
      have happend : stepsHeard l w.history (a ++ b) = a ++ stepsHeard l w₁.history b := by
        rw [stepsHeard_append, if_pos hheard, hw]
      have hbind : (m >>= f) w = f x w₁ := by rw [bind_apply, hmm, hm']
      have hbind' : (m' >>= f') w = f' x w₁ := by rw [bind_apply, hm']
      refine ⟨a ++ b, ?_, ?_, fun hs => ?_, fun hs => ?_⟩
      · rw [hbind', hb.whole, hw, List.reverse_append, List.append_assoc]
      · rw [hbind, hb.history, happend, hw, List.reverse_append, List.append_assoc]
      · rw [hbind, hbind']
        exact hb.heard (List.append_cancel_left (happend ▸ hs))
      · rw [hbind]
        exact hb.cut fun hb' => hs (by rw [happend, hb'])
  · -- The first computation is cut off here, wherever the other one gets to.
    have hhalt : (m >>= f) w = (.error (.failed .disconnected), (m w).2) := by
      have hout := ha.cut hheard
      rw [bind_apply]
      rcases hmw : m w with ⟨out, w₀⟩
      obtain rfl : out = .error (.failed .disconnected) := by simpa [hmw] using hout
      rfl
    rcases hm' : m' w with ⟨h | x, w₁⟩
    · refine ⟨a, ?_, by rw [hhalt, ha.history], fun hs => absurd hs hheard, fun _ => by rw [hhalt]⟩
      rw [bind_apply, hm']
      simpa [hm'] using ha.whole
    · obtain ⟨b, hb⟩ := hf x w₁
      have hw : w₁.history = a.reverse ++ w.history := by simpa [hm'] using ha.whole
      refine ⟨a ++ b, ?_, ?_, fun hs => absurd hs (stepsHeard_append_ne hheard b),
        fun _ => by rw [hhalt]⟩
      · rw [bind_apply, hm', List.reverse_append, List.append_assoc, ← hw]
        exact hb.whole
      · rw [hhalt, stepsHeard_append, if_neg hheard, ha.history]

theorem shortens_emit (e : Event) :
    Shortens l (emit l e : Run σ Unit) (emit .loyal e) := by
  intro w
  cases hw : w.history.isOver with
  | true =>
    -- Nothing is emitted after a terminal event, whoever listens.
    have hoffer : ∀ l : Listener, l.offer w.history e = .afterTerminal e.status := by
      intro l
      rw [Listener.offer, if_pos hw]
    have hemit : emit l e w = emit .loyal e w := by rw [emit, emit, hoffer, hoffer]
    refine ⟨[], departs_of_eq hemit ?_ rfl⟩
    rw [emit, hoffer]
    rfl
  | false =>
    have hloyal := emit_of_heard (e := e) hw (rfl : Listener.loyal w.history = true)
    cases hl : l w.history with
    | true =>
      refine ⟨[.emit e], departs_of_eq ((emit_of_heard hw hl).trans hloyal.symm) ?_ ?_⟩
      · rw [hloyal]
        rfl
      · simp [stepsHeard, hl]
    | false =>
      have hcut : stepsHeard l w.history [.emit e] = [] := by simp [stepsHeard, Step.event?, hl]
      refine ⟨[.emit e], ?_, ?_, ?_, ?_⟩
      · rw [hloyal]
        rfl
      · rw [emit_of_unheard hw hl, hcut]
        rfl
      · intro hs
        rw [hcut] at hs
        cases hs
      · intro _
        rw [emit_of_unheard hw hl]

theorem shortens_pause (d : Duration) : Shortens l (pause d : Run σ Unit) (pause d) := by
  refine shortens_of_silent fun w => ⟨pauses d, ?_, ?_⟩
  · by_cases hd : d.nanoseconds = 0 <;> simp [pause, pauses, hd, note, Run.pure]
  · intro s hs
    rw [pauses] at hs
    split at hs
    · cases hs
    · rw [List.mem_singleton.mp hs]
      rfl

theorem shortens_consult {step : Answer ε α → Step} (hs : ∀ a, (step a).event? = none)
    (question : σ → Answer ε α × σ) :
    Shortens l (consult step question) (consult step question) := by
  refine shortens_of_silent fun w => ⟨[step (question w.state).1], ?_, ?_⟩
  · rw [consult_apply]
    rfl
  · intro s hmem
    rw [List.mem_singleton.mp hmem]
    exact hs _

theorem shortens_ask {step : Answer ε α → Step} (hs : ∀ a, (step a).event? = none)
    (question : σ → Answer ε α × σ) (failure : ε → Failure) :
    Shortens l (ask step question failure) (ask step question failure) := by
  refine Shortens.bind (shortens_consult hs question) ?_
  rintro (e | a)
  · exact shortens_halt _
  · exact shortens_pure a

/-! ## Functions of a run -/

variable (p : Setting σ)

theorem shortens_forward (event : String → Event) (output : String) (cs : List String) :
    Shortens l (forward l event output cs : Run σ String) (forward .loyal event output cs) := by
  induction cs generalizing output with
  | nil => exact shortens_pure output
  | cons c cs ih =>
    rw [forward, forward]
    split
    · exact ih output
    · exact Shortens.bind (shortens_emit _) fun _ => ih _

theorem shortens_generate (r : TextRequest) (event : String → Event) :
    Shortens l (generate p l r event) (generate p .loyal r event) := by
  refine Shortens.bind (shortens_ask (fun _ => rfl) _ _) fun x => ?_
  refine Shortens.bind (shortens_forward event "" _) fun output => ?_
  cases x.ending with
  | finished => exact shortens_pure output
  | failed e => exact shortens_halt _
  | panicked => exact shortens_halt _
  | stalled => exact shortens_halt _

theorem shortens_check (diagram : String) : Shortens l (check p diagram) (check p diagram) :=
  shortens_ask (fun _ => rfl) _ _

theorem shortens_measure (s : Snapshot) (apiKey : Option String) :
    Shortens l (measure p s apiKey) (measure p s apiKey) := by
  refine Shortens.bind (shortens_consult (fun _ => rfl) _) ?_
  rintro (e | n)
  · exact shortens_pure _
  · exact shortens_pure n

theorem alongside_shortens (r : DiagramRequest) :
    Alongside p p.team l .loyal r r.apiKey r.hostToken (Shortens l) where
  pure := shortens_pure
  rejected _ := shortens_halt _
  unresolved _ := shortens_halt _
  bind := Shortens.bind
  emit e _ := shortens_emit e
  pause := shortens_pause
  fetch := shortens_ask (fun _ => rfl) _ _
  measure s := shortens_measure p s r.apiKey
  generate q k _ hq := by
    rw [← hq]
    exact shortens_generate p q k.chunk
  check := shortens_check p

/-- **Up to its terminal event a run is cut off where an event finds the listener gone.** -/
theorem shortens_diagram (r : DiagramRequest) :
    Shortens l (diagram p l r) (diagram p .loyal r) :=
  (alongside_shortens p r).diagram rfl

end Run

/-! ## Whole runs -/

/-- A run returns unless it waits for a text that never comes. -/
def Returns (p : Setting σ) (l : Listener) (r : DiagramRequest) (w : World σ) : Prop :=
  (Run.diagram p l r w).1 ≠ .error .stalled

def Step.asks : Step → Bool
  | .pause _ | .emit _ => false
  | _ => true

/-- The steps that ask a collaborator, each with what it is asked and what it answers. -/
def asked (steps : List Step) : List Step :=
  steps.filter Step.asks

theorem stepsHeard_closing (steps : List Step) (out : Except Halt Event) :
    stepsHeard l steps.reverse (closing .loyal steps out) = closing l steps out := by
  rw [closing, closing]
  cases terminalEvent? out with
  | none => rfl
  | some e => cases hl : l steps.reverse <;> simp [stepsHeard, Step.event?, Listener.loyal, hl]

/-- How a run under the listener `l` compares to the same run under a listener that stays. -/
theorem execute_eq_stepsHeard (p : Setting σ) (l : Listener) (r : DiagramRequest) (s : σ) :
    (execute p l r ⟨s, []⟩).history.reverse =
        stepsHeard l [] (execute p .loyal r ⟨s, []⟩).history.reverse ∧
      (Returns p l r ⟨s, []⟩ ↔ Returns p .loyal r ⟨s, []⟩ ∨
        (execute p l r ⟨s, []⟩).history.reverse ≠ (execute p .loyal r ⟨s, []⟩).history.reverse) := by
  obtain ⟨a, ha⟩ := Run.shortens_diagram (l := l) p r ⟨s, []⟩
  have hwhole := (executed_diagram p .loyal r s).all_eq
  have hsteps := (executed_diagram p l r s).all_eq
  have ha' : (Run.diagram p .loyal r ⟨s, []⟩).2.history.reverse = a := by simp [ha.whole]
  have hcut : (Run.diagram p l r ⟨s, []⟩).2.history.reverse = stepsHeard l [] a := by
    simp [ha.history]
  rw [ha'] at hwhole
  rw [hcut] at hsteps
  rw [hwhole, hsteps, stepsHeard_append]
  by_cases hheard : stepsHeard l [] a = a
  · have hclosing := stepsHeard_closing (l := l) a (Run.diagram p .loyal r ⟨s, []⟩).1
    rw [if_pos hheard, hheard, List.append_nil, hclosing, Returns, Returns, ha.heard hheard]
    refine ⟨rfl, Or.inl, ?_⟩
    rintro (h | h) hstalled
    · exact h hstalled
    · rw [hstalled] at h
      exact h rfl
  · have hout := ha.cut hheard
    rw [if_neg hheard, hout, Returns, hout]
    refine ⟨List.append_nil _, fun _ => Or.inr fun he => ?_, fun _ => nofun⟩
    refine stepsHeard_append_ne hheard (closing .loyal a (Run.diagram p .loyal r ⟨s, []⟩).1) ?_
    rw [stepsHeard_append, if_neg hheard]
    exact (List.append_nil _).symm.trans he

/-- Nothing that was cut off a run was preceded by its terminal event. -/
theorem isTerminal_of_cut {p : Setting σ} {r : DiagramRequest} {s : σ} {steps rest : List Step}
    {x : Step} (h : (execute p .loyal r ⟨s, []⟩).history.reverse = steps ++ x :: rest) :
    ∀ y ∈ steps, y.isTerminal = false := by
  obtain ⟨front, out, hx⟩ := executed p .loyal r s
  have hfront : steps <+: front := by
    have hall := hx.all_eq
    rw [h, closing] at hall
    cases ht : terminalEvent? out with
    | none =>
      rw [ht] at hall
      exact ⟨x :: rest, by simpa using hall⟩
    | some e =>
      have hconcat : steps ++ x :: rest = front ++ [.emit e] := by
        rw [ht] at hall
        exact hall
      have hle : steps <+: front ++ [.emit e] := ⟨_, hconcat⟩
      rcases List.prefix_concat_iff.mp hle with rfl | hle
      · simp at hconcat
      · exact hle
  exact fun y hy => hx.quiet y (hfront.subset hy)

/-- **A listener that leaves only shortens the run.**  Whatever the collaborators do and whenever the
listener is there, the events and the questions to the collaborators are the first ones of the run
whose listener stays.  Every event finds the listener there.  Either nothing is missing, or the run
ends where an event would have found it gone, without a terminal event.  The run returns if it would
return with a listener that stays or if something is missing, and does not return only where a
collaborator opened a text without an end. -/
theorem execute_departure (p : Setting σ) (l : Listener) (r : DiagramRequest) (s : σ) :
    let whole := (execute p .loyal r ⟨s, []⟩).history.reverse
    let steps := (execute p l r ⟨s, []⟩).history.reverse
    emitted steps <+: emitted whole ∧ asked steps <+: asked whole ∧
      (∀ a e b, steps = a ++ .emit e :: b → l a.reverse = true) ∧
      (steps = whole ∨ ∃ e rest, whole = steps ++ .emit e :: rest ∧ l steps.reverse = false ∧
        ∀ x ∈ steps, x.isTerminal = false) ∧
      (Returns p l r ⟨s, []⟩ ↔ Returns p .loyal r ⟨s, []⟩ ∨ steps ≠ whole) ∧
      (¬ Returns p l r ⟨s, []⟩ → Stalls steps) := by
  intro whole steps
  obtain ⟨hsteps, hreturns⟩ := execute_eq_stepsHeard p l r s
  have hsteps : steps = stepsHeard l [] whole := hsteps
  have hfront : steps <+: whole := hsteps ▸ stepsHeard_prefix [] whole
  refine ⟨hfront.filterMap _, hfront.filter _, ?_, ?_, hreturns, ?_⟩
  · intro a e b h
    simpa using listens_of_stepsHeard (hsteps.symm.trans h)
  · by_cases hw : stepsHeard l [] whole = whole
    · exact Or.inl (hsteps.trans hw)
    · obtain ⟨e, rest, hrest, hl⟩ := stepsHeard_cut hw
      rw [← hsteps] at hrest hl
      exact Or.inr ⟨e, rest, hrest, by simpa using hl, isTerminal_of_cut hrest⟩
  · intro hstalled
    have hx := executed_diagram p l r s
    rw [Classical.not_not.mp hstalled] at hx
    refine hx.course.stalls.mono ?_
    show _ ⊆ (execute p l r ⟨s, []⟩).history.reverse
    rw [hx.all_eq]
    exact List.subset_append_left _ _

end ArchDiagram
