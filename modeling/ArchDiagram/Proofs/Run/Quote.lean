import ArchDiagram.Proofs.Provider.Retry
import ArchDiagram.Proofs.Run.Gate
import ArchDiagram.Proofs.Run.Input

/-!
# A quote and its run

A quote and a run begin alike: they fetch the snapshot and measure what the first stage is going to
read (`Run.reading`).  There the quote ends.  The run puts the same estimate before its gate, and
the first text that it asks for is asked for by the request that was measured.

* `Run.quote_eq`, `Run.diagram_eq_reading`: both go on from one reading.
* `Run.Reads`: what a reading comes to.
* `Foretells`: what a quote and a run have in common.
* `quote_foretells`: **every quote foretells its run**.
-/

namespace ArchDiagram

namespace Run

variable {σ α β γ : Type} {p : Setting σ} {l : Listener} {r : DiagramRequest} {s : σ}

theorem bind_assoc (m : Run σ α) (f : α → Run σ β) (g : β → Run σ γ) :
    (m >>= f) >>= g = m >>= fun a => f a >>= g := by
  funext w
  rw [bind_apply, bind_apply, bind_apply]
  rcases m w with ⟨h | a, w'⟩ <;> rfl

/-! ## Reading -/

/-- Fetches the snapshot of a repository and measures what the first stage reads of it. -/
def reading (p : Setting σ) (r : DiagramRequest) : Run σ (Snapshot × Nat) := do
  let snapshot ← fetch p r
  let estimate ← measure p snapshot r.apiKey
  pure (snapshot, estimate)

/-- A run from its gate on. -/
def enter (p : Setting σ) (l : Listener) (r : DiagramRequest) (d : Snapshot × Nat) :
    Run σ Event := do
  emit l startedEvent
  match Gate.decide p.policy d.2 r.apiKey.isSome with
  | some rejection => fail (.rejected rejection)
  | none => make p l r d.1

theorem quote_eq (hr : r.fault? = none) :
    quote p r = reading p r >>= fun d => pure (Quote.ofBase p.model d.2) := by
  rw [quote, hr, reading, bind_assoc]
  refine congrArg (fetch p r >>= ·) (funext fun snapshot => ?_)
  rw [bind_assoc]
  rfl

theorem diagram_eq_reading : diagram p l r = reading p r >>= enter p l r := by
  rw [diagram, reading, bind_assoc]
  refine congrArg (fetch p r >>= ·) (funext fun snapshot => ?_)
  rw [bind_assoc]
  rfl

/-- What a reading comes to whose collaborators are in the state `s`. -/
inductive Reads (p : Setting σ) (r : DiagramRequest) (s : σ) : Course (Snapshot × Nat)
  | unfetched {a : Answer SnapshotError Snapshot} {h : Halt} :
      (p.team.fetch r.owner r.repo r.hostToken s).1 = a → a.halt? .snapshot = some h →
      Reads p r s [.fetch r.owner r.repo r.hostToken a] (.error h)
  | unmeasured {snap : Snapshot} : (p.team.fetch r.owner r.repo r.hostToken s).1 = .ok snap →
      (p.team.count (explanationRequest p.model snap r.apiKey)
        (p.team.fetch r.owner r.repo r.hostToken s).2).1 = .panic →
      Reads p r s [.fetch r.owner r.repo r.hostToken (.ok snap),
        .count (explanationRequest p.model snap r.apiKey) .panic] (.error .panicked)
  | measured {snap : Snapshot} {y : Answer ProviderError Nat} :
      (p.team.fetch r.owner r.repo r.hostToken s).1 = .ok snap →
      (p.team.count (explanationRequest p.model snap r.apiKey)
        (p.team.fetch r.owner r.repo r.hostToken s).2).1 = y → y ≠ .panic →
      Reads p r s [.fetch r.owner r.repo r.hostToken (.ok snap),
        .count (explanationRequest p.model snap r.apiKey) y] (.ok (snap, Gate.estimate snap y))

theorem measure_panic {snap : Snapshot} {apiKey : Option String} {w : World σ}
    (h : (p.team.count (explanationRequest p.model snap apiKey) w.state).1 = .panic) :
    measure p snap apiKey w = (.error .panicked,
      ⟨(p.team.count (explanationRequest p.model snap apiKey) w.state).2,
        .count (explanationRequest p.model snap apiKey) .panic :: w.history⟩) := by
  show (consult _ _ >>= _) w = _
  rw [bind_apply, consult_apply, h]
  rfl

theorem reads_from (p : Setting σ) (r : DiagramRequest) (w : World σ) :
    ∃ steps, (reading p r w).2.history = steps.reverse ++ w.history ∧
      Reads p r w.state steps (reading p r w).1 := by
  cases hf : (p.team.fetch r.owner r.repo r.hostToken w.state).1 with
  | ok snap =>
    have hreading : reading p r w = (measure p snap r.apiKey >>= fun n => pure (snap, n))
        ⟨(p.team.fetch r.owner r.repo r.hostToken w.state).2,
          .fetch r.owner r.repo r.hostToken (.ok snap) :: w.history⟩ := ask_bind hf
    rw [hreading, bind_apply]
    generalize hy : (p.team.count (explanationRequest p.model snap r.apiKey)
      (p.team.fetch r.owner r.repo r.hostToken w.state).2).1 = y
    by_cases hpanic : y = .panic
    · subst hpanic
      rw [measure_panic hy]
      exact ⟨_, rfl, .unmeasured hf hy⟩
    · rw [measure_apply hy hpanic]
      exact ⟨_, rfl, .measured hf hy hpanic⟩
  | error e =>
    have hreading : reading p r w = _ := ask_bind_halt hf rfl
    rw [hreading]
    exact ⟨_, rfl, .unfetched hf rfl⟩
  | panic =>
    have hreading : reading p r w = _ := ask_bind_halt hf rfl
    rw [hreading]
    exact ⟨_, rfl, .unfetched hf rfl⟩

theorem reads (p : Setting σ) (r : DiagramRequest) (s : σ) :
    Reads p r s (reading p r ⟨s, []⟩).2.history.reverse (reading p r ⟨s, []⟩).1 := by
  obtain ⟨steps, hsteps, hreads⟩ := reads_from p r ⟨s, []⟩
  rw [hsteps, List.append_nil, List.reverse_reverse]
  exact hreads

/-- A reading asks for no text and no verdict, and measures what the first stage is going to
read. -/
theorem Reads.views {steps : List Step} {out : Except Halt (Snapshot × Nat)}
    (h : Reads p r s steps out) : generated steps = [] ∧ checked steps = [] ∧
      (∀ q ∈ counted steps, q.maxOutputTokens = none) ∧
      ∀ d, out = .ok d → counted steps = [explanationRequest p.model d.1 r.apiKey] := by
  cases h with
  | unfetched _ _ => exact ⟨rfl, rfl, nofun, nofun⟩
  | unmeasured _ _ =>
    refine ⟨rfl, rfl, ?_, nofun⟩
    intro q hq
    rw [List.mem_singleton.mp hq]
    rfl
  | measured _ _ _ =>
    refine ⟨rfl, rfl, ?_, ?_⟩
    · intro q hq
      rw [List.mem_singleton.mp hq]
      rfl
    · rintro d ⟨⟩
      rfl

/-- A reading fails if and only if there is no snapshot. -/
theorem Reads.fails_iff {steps : List Step} {out : Except Halt (Snapshot × Nat)}
    (h : Reads p r s steps out) : (∃ f, out = .error (.failed f)) ↔
      ∃ e, (p.team.fetch r.owner r.repo r.hostToken s).1 = .error e := by
  cases h with
  | @unfetched a _ hf ha =>
    rw [hf]
    cases a <;> cases ha
    · exact ⟨fun _ => ⟨_, rfl⟩, fun _ => ⟨_, rfl⟩⟩
    · exact ⟨nofun, nofun⟩
  | unmeasured hf _ =>
    rw [hf]
    exact ⟨nofun, nofun⟩
  | measured hf _ _ =>
    rw [hf]
    exact ⟨nofun, nofun⟩

/-- A reading succeeds if and only if there is a snapshot and its count does not break down. -/
theorem Reads.succeeds_iff {steps : List Step} {out : Except Halt (Snapshot × Nat)}
    (h : Reads p r s steps out) : (∃ d, out = .ok d) ↔
      (∃ snap, (p.team.fetch r.owner r.repo r.hostToken s).1 = .ok snap) ∧
        ∀ q, .count q .panic ∉ steps := by
  cases h with
  | @unfetched a _ hf ha =>
    rw [hf]
    refine ⟨nofun, ?_⟩
    rintro ⟨⟨snap, rfl⟩, -⟩
    cases ha
  | unmeasured _ _ =>
    refine ⟨nofun, ?_⟩
    rintro ⟨-, hcount⟩
    exact absurd (List.mem_cons_of_mem _ (List.mem_singleton_self _)) (hcount _)
  | @measured snap y hf _ hy =>
    refine ⟨fun _ => ⟨⟨snap, hf⟩, ?_⟩, fun _ => ⟨_, rfl⟩⟩
    intro q hq
    simp only [List.mem_cons, List.not_mem_nil, or_false, reduceCtorEq, false_or,
      Step.count.injEq] at hq
    exact hy hq.2.symm

/-- A run decides at its gate on the estimate of its reading, whatever the limits of the gate
are. -/
theorem Reads.gate {steps : List Step} {d : Snapshot × Nat} (h : Reads p r s steps (.ok d))
    (policy : Gate.Policy) :
    generated (execute { p with policy := policy } .loyal r ⟨s, []⟩).history.reverse ≠ [] ↔
      Gate.decide policy d.2 r.apiKey.isSome = none := by
  cases h with
  | @measured snap y hf hy hpanic =>
    have hgate := generated_iff_passes (p := { p with policy := policy }) hf hy hpanic
    rw [hgate, Gate.decide_eq_none_iff]

/-! ## After the reading -/

/-- What a run does after its reading. -/
inductive Entering (p : Setting σ) (r : DiagramRequest) (d : Snapshot × Nat) : Course Event
  | unheard : Entering p r d [] (.error (.failed .disconnected))
  | rejected {x : Gate.Rejection} : Gate.decide p.policy d.2 r.apiKey.isSome = some x →
      Entering p r d [.emit startedEvent] (.error (.failed (.rejected x)))
  | passed {steps : List Step} {out : Except Halt Event} :
      Gate.decide p.policy d.2 r.apiKey.isSome = none → Making p r d.1 steps out →
      Entering p r d (.emit startedEvent :: steps) out

theorem follows_enter (p : Setting σ) (r : DiagramRequest) (d : Snapshot × Nat) :
    (enter p l r d).Follows p.team l (Entering p r d) := by
  refine (follows_emit rfl).bind ?_ ?_
  · rintro steps h ⟨⟩
    exact .unheard
  · rintro steps ⟨⟩ ⟨⟩
    cases hd : Gate.decide p.policy d.2 r.apiKey.isSome with
    | some x => exact follows_fail (by simp) (.rejected hd)
    | none => exact (follows_make p r d.1).mono fun steps out hs => .passed hd hs

/-- After its reading a run counts nothing, and asks first for what was measured. -/
theorem Entering.requests {d : Snapshot × Nat} {steps : List Step} {out : Except Halt Event}
    (h : Entering p r d steps out) : counted steps = [] ∧
      ∃ rest, generated steps <+: explanationRequest p.model d.1 r.apiKey :: rest := by
  cases h with
  | unheard => exact ⟨rfl, [], List.nil_prefix⟩
  | rejected _ => exact ⟨rfl, [], List.nil_prefix⟩
  | passed _ hs =>
    obtain ⟨repairs, hprefix, -⟩ := hs.requests
    exact ⟨hs.part.counted, _, hprefix⟩

/-- What a run does before its gate is a reading. -/
theorem execute_of_reading {out : Except Halt (Snapshot × Nat)} {w : World σ}
    (hd : reading p r ⟨s, []⟩ = (out, w)) :
    ∃ more, (execute p l r ⟨s, []⟩).history.reverse = w.history.reverse ++ more ∧
      counted more = [] ∧ (∀ h, out = .error h → generated more = []) ∧
      ∀ d, out = .ok d →
        ∃ rest, generated more <+: explanationRequest p.model d.1 r.apiKey :: rest := by
  have hx := executed_diagram p l r s
  have hclosing : Part (fun _ => True) (fun _ => True) 0 0
      (closing l (diagram p l r ⟨s, []⟩).2.history.reverse (diagram p l r ⟨s, []⟩).1) :=
    hx.course.part_closing l
  rw [hx.all_eq]
  have hreads := reads p r s
  rw [hd] at hreads
  have hdiagram : diagram p l r ⟨s, []⟩ = (reading p r >>= enter p l r) ⟨s, []⟩ := by
    rw [diagram_eq_reading]
  rw [bind_apply, hd] at hdiagram
  cases out with
  | error h =>
    have hsteps : (diagram p l r ⟨s, []⟩).2 = w := congrArg Prod.snd hdiagram
    refine ⟨_, by rw [hsteps], hclosing.counted, fun _ _ => hclosing.generated_eq, nofun⟩
  | ok d =>
    have hopen : w.history.isOver = false := by
      generalize hh : w.history.reverse = steps at hreads
      cases hreads
      rw [List.reverse_eq_iff.mp hh]
      rfl
    obtain ⟨steps, hp, hc⟩ := follows_enter (l := l) p r d w hopen
    have hsteps : (diagram p l r ⟨s, []⟩).2.history.reverse = w.history.reverse ++ steps := by
      rw [hdiagram, hp.history, List.reverse_append, List.reverse_reverse]
    obtain ⟨hcounted, rest, hprefix⟩ := hc.requests
    refine ⟨_, by rw [hsteps, List.append_assoc], ?_, nofun, ?_⟩
    · rw [counted_append, hcounted, ← hsteps, hclosing.counted]
      rfl
    · rintro d ⟨⟩
      refine ⟨rest, ?_⟩
      rw [generated_append, ← hsteps, hclosing.generated_eq, List.append_nil]
      exact hprefix

end Run

/-! ## Quotes and runs -/

/-- What the quote for a request has in common with a run for it, where the collaborators answer the
same. -/
structure Foretells {σ : Type} (p : Setting σ) (l : Listener) (r : DiagramRequest) (s : σ) :
    Prop where
  /-- What the quote measures is what the run measures. -/
  counted_eq : counted (Run.quote p r ⟨s, []⟩).2.history.reverse =
    counted (execute p l r ⟨s, []⟩).history.reverse
  /-- What is measured is what the run asks for first. -/
  first : ∀ q qs, generated (execute p l r ⟨s, []⟩).history.reverse = q :: qs →
    counted (execute p l r ⟨s, []⟩).history.reverse = [q]
  /-- Every client of a provider sends the same to have it measured and to ask for its text. -/
  sent : ∀ q ∈ counted (execute p l r ⟨s, []⟩).history.reverse,
    ∀ c : Provider.Client, c.CountsAsSent q
  generated_eq : generated (Run.quote p r ⟨s, []⟩).2.history.reverse = []
  checked_eq : checked (Run.quote p r ⟨s, []⟩).2.history.reverse = []
  /-- A quote fails if and only if its fetch does, whatever the count answers. -/
  fails_iff : (∃ f, (Run.quote p r ⟨s, []⟩).1 = .error (.failed f)) ↔
    ∃ e, (p.team.fetch r.owner r.repo r.hostToken s).1 = .error e
  /-- A quote is given if and only if there is a snapshot, unless the count breaks down. -/
  given_iff : (∃ q, (Run.quote p r ⟨s, []⟩).1 = .ok q) ↔
    (∃ snap, (p.team.fetch r.owner r.repo r.hostToken s).1 = .ok snap) ∧
      ∀ q, .count q .panic ∉ (Run.quote p r ⟨s, []⟩).2.history
  /-- The quote is taken from the estimate `e` on which the gate of the run decides, whatever the
  limits of the gate are. -/
  estimate : ∀ q, (Run.quote p r ⟨s, []⟩).1 = .ok q → ∃ e, q.inputTokens = 2 * e + 3000 ∧
    ∀ policy, generated
      (execute { p with policy := policy } .loyal r ⟨s, []⟩).history.reverse ≠ [] ↔
        Gate.decide policy e r.apiKey.isSome = none

/-- **Every quote foretells its run.**  For a request without fault, whatever the collaborators
answer and whoever listens to the run, the quote measures what the run measures and asks for first,
it fails only if there is no snapshot, and it is taken from the estimate on which the gate
decides.  Unlike a run it catches no breakdown, so that a count that breaks down leaves no quote. -/
theorem quote_foretells {σ : Type} (p : Setting σ) (l : Listener) (r : DiagramRequest) (s : σ)
    (hr : r.fault? = none) : Foretells p l r s := by
  have hreads := Run.reads p r s
  have hquote := congrFun (Run.quote_eq (p := p) hr) ⟨s, []⟩
  rw [Run.bind_apply] at hquote
  rcases hd : Run.reading p r ⟨s, []⟩ with ⟨out, w⟩
  obtain ⟨more, hsteps, hcounted, hhalted, hfirst⟩ := Run.execute_of_reading (l := l) hd
  rw [hd] at hreads hquote
  have hout : (Run.quote p r ⟨s, []⟩).1 = out.map fun d => Quote.ofBase p.model d.2 := by
    rw [hquote]
    cases out <;> rfl
  have hw : (Run.quote p r ⟨s, []⟩).2.history = w.history := by
    rw [hquote]
    cases out <;> rfl
  obtain ⟨hgenerated, hchecked, hlimit, hmeasured⟩ := hreads.views
  have hall : counted (execute p l r ⟨s, []⟩).history.reverse = counted w.history.reverse := by
    rw [hsteps, counted_append, hcounted, List.append_nil]
  constructor
  case counted_eq => rw [hw, hall]
  case first =>
    intro q qs hq
    rw [hsteps, generated_append, hgenerated, List.nil_append] at hq
    cases out with
    | error h =>
      rw [hhalted h rfl] at hq
      cases hq
    | ok d =>
      obtain ⟨rest, hprefix⟩ := hfirst d rfl
      rw [hq] at hprefix
      rw [hall, hmeasured d rfl, (List.cons_prefix_cons.mp hprefix).1]
  case sent =>
    intro q hq c
    rw [hall] at hq
    exact c.countsAsSent (hlimit q hq)
  case generated_eq => rw [hw, hgenerated]
  case checked_eq => rw [hw, hchecked]
  case fails_iff =>
    rw [hout, ← hreads.fails_iff]
    cases out <;> simp [Except.map]
  case given_iff =>
    have hmem : ∀ x : Step, x ∈ (Run.quote p r ⟨s, []⟩).2.history ↔ x ∈ w.history.reverse := by
      intro x
      rw [hw, List.mem_reverse]
    simp only [hmem]
    rw [hout, ← hreads.succeeds_iff]
    cases out <;> simp [Except.map]
  case estimate =>
    intro q hq
    rw [hout] at hq
    cases out with
    | error h => cases hq
    | ok d =>
      cases hq
      refine ⟨d.2, ?_, hreads.gate⟩
      rw [Nat.mul_comm]
      rfl

/-- A quote whose count answers nothing of use. -/
theorem quote_foretells_uncounted :
    let script : Rehearsal := ⟨.ok ⟨"main", "a.py", "b"⟩, .error (.stream "no count today"), [], []⟩
    let p : Setting Rehearsal := ⟨Rehearsal.team, .standard, "o4-mini", ⟨0⟩, 2⟩
    let r : DiagramRequest := ⟨"octo", "demo", some "sk-own", none⟩
    r.fault? = none ∧ Foretells p .loyal r script := by
  intro script p r
  have hr : r.fault? = none := by decide
  exact ⟨hr, quote_foretells p .loyal r script hr⟩

/-- A count that breaks down takes the quote with it, although there is a snapshot. -/
theorem quote_unmeasured :
    let script : Rehearsal := ⟨.ok ⟨"main", "a.py", "b"⟩, .panic, [], []⟩
    let p : Setting Rehearsal := ⟨Rehearsal.team, .standard, "o4-mini", ⟨0⟩, 2⟩
    let r : DiagramRequest := ⟨"octo", "demo", some "sk-own", none⟩
    r.fault? = none ∧
      (p.team.fetch r.owner r.repo r.hostToken script).1 = .ok ⟨"main", "a.py", "b"⟩ ∧
      (Run.quote p r ⟨script, []⟩).1 = .error .panicked := by
  intro script p r
  exact ⟨by decide, rfl, rfl⟩

end ArchDiagram
