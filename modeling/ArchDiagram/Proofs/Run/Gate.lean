import ArchDiagram.Proofs.Decimal.Digits
import ArchDiagram.Proofs.Run.Pipeline
import ArchDiagram.Proofs.Run.View
import ArchDiagram.Run.Rehearsal
import Mathlib.Algebra.Order.Floor.Div
import Mathlib.GroupTheory.GroupAction.Ring

/-!
# The gate before a run

Once a run has its snapshot and its estimate, what comes next is up to the gate.  A run that passes
asks for a text, since its first stage has nothing to wait for but its listener.  A run that is
turned away says that it has started, reports one error, and asks neither for a text nor for a
verdict.  The error names the limit that was crossed, in a form from which it can be read back.

* `Gate.amount?`: the number that an amount stands for.
* `Gate.amount?_groupThousands`, `Gate.amount?_abbreviateThousands`: limits can be read back.
* `Gate.decide_eq_none_iff`: the decision, for limits in either order.
* `Gate.TurnsAway`: the errors that turn a run away.
* `Run.diagram_eq`: a run up to the gate.
* `generated_of_passes`, `execute_of_not_passes`: what follows from the decision.
* `execute_gate`: **the gate decides on the whole run**.
-/

namespace ArchDiagram

/-! ## Amounts -/

namespace Gate

/-- The number that an amount stands for: its digits, or so many thousands if a `k` follows them.
Commas between digits do not count. -/
def amount? (cs : List Char) : Option Nat :=
  if cs.getLast? = some 'k' then (Decimal.read? cs.dropLast).map (1000 * ·)
  else Decimal.read? (cs.filter (· ≠ ','))

theorem filter_grouped {cs : List Char} (h : ',' ∉ cs) : (grouped cs).filter (· ≠ ',') = cs := by
  induction cs with
  | nil => rfl
  | cons c cs ih =>
    have hc : c ≠ ',' := fun hc => h (hc ▸ List.mem_cons_self)
    have hcs := ih fun hm => h (List.mem_cons_of_mem _ hm)
    rw [grouped]
    split <;> simpa [hc] using hcs

theorem mem_of_mem_grouped {cs : List Char} {c : Char} (hc : c ∈ grouped cs) : c ∈ cs ∨ c = ',' := by
  induction cs with
  | nil => exact Or.inl hc
  | cons d cs ih =>
    rw [grouped] at hc
    split at hc <;> simp only [List.mem_cons] at hc ⊢ <;> tauto

/-- Digits in groups of three can be read back. -/
theorem amount?_groupThousands (n : Nat) : amount? (groupThousands n) = some n := by
  have hdigit : ∀ c ∈ Decimal.chars n, c.isDigit = true := fun c => Decimal.isDigit_of_mem_chars
  have hk : (groupThousands n).getLast? ≠ some 'k' := by
    intro h
    rcases mem_of_mem_grouped (List.mem_of_getLast? h) with hm | hm
    · exact absurd (hdigit _ hm) (by decide)
    · exact absurd hm (by decide)
  have hcomma : ',' ∉ Decimal.chars n := fun h => absurd (hdigit _ h) (by decide)
  rw [amount?, if_neg hk, groupThousands, filter_grouped hcomma, Decimal.read?_chars]

/-- Whole thousands in short can be read back. -/
theorem amount?_abbreviateThousands (n : Nat) : amount? (abbreviateThousands n) = some n := by
  rw [abbreviateThousands]
  split
  · rename_i h
    have hmul : 1000 * (n / 1000) = n := Nat.mul_div_cancel' (Nat.dvd_of_mod_eq_zero h.2)
    rw [amount?, if_pos List.getLast?_concat, List.dropLast_concat, Decimal.read?_chars]
    exact congrArg some hmul
  · exact amount?_groupThousands n

/-! ## The decision -/

def estimate (s : Snapshot) : Answer ProviderError Nat → Nat
  | .ok n => n
  | _ => (s.fileTree.length + 1 + s.readme.length) ⌈/⌉ 4

/-- What the gate lets pass. -/
def Passes (p : Policy) (e : Nat) (hasKey : Bool) : Prop :=
  e ≤ p.limit ∧ (hasKey = true ∨ e ≤ p.threshold ∨ e = p.limit)

theorem decide_eq_none_iff (p : Policy) (e : Nat) (hasKey : Bool) :
    decide p e hasKey = none ↔ Passes p e hasKey := by
  rw [decide, Passes]
  by_cases hlimit : p.limit < e
  · rw [if_pos hlimit]
    exact ⟨nofun, fun h => absurd h.1 (Nat.not_le_of_lt hlimit)⟩
  · rw [if_neg hlimit]
    by_cases hkey : p.threshold < e ∧ e < p.limit ∧ hasKey = false
    · rw [if_pos hkey]
      refine ⟨nofun, fun h => ?_⟩
      rcases h.2 with hk | hk | hk
      · rw [hkey.2.2] at hk
        cases hk
      · omega
      · omega
    · rw [if_neg hkey]
      refine ⟨fun _ => ⟨Nat.le_of_not_lt hlimit, ?_⟩, fun _ => rfl⟩
      cases hasKey with
      | true => exact Or.inl rfl
      | false =>
        have hlow : ¬ (p.threshold < e ∧ e < p.limit) := fun h => hkey ⟨h.1, h.2, rfl⟩
        omega

/-- What the gate does not let pass crosses the limit, or else the threshold. -/
theorem decide_of_not_passes {p : Policy} {e : Nat} {hasKey : Bool} (h : ¬ Passes p e hasKey) :
    decide p e hasKey =
      some (if p.limit < e then .tooLarge e p.limit else .keyRequired e p.threshold) := by
  rw [← decide_eq_none_iff, decide] at h
  rw [decide]
  split
  · rfl
  · rename_i hlimit
    rw [if_neg hlimit] at h
    split
    · rfl
    · rename_i hkey
      exact absurd (if_neg hkey) h

end Gate

/-! ## Up to the gate -/

namespace Run

variable {σ : Type} {p : Setting σ} {r : DiagramRequest} {s : σ} {snap : Snapshot}
  {a : Answer ProviderError Nat}

theorem measure_apply {apiKey : Option String} {w : World σ}
    (h : (p.team.count (explanationRequest p.model snap apiKey) w.state).1 = a) (ha : a ≠ .panic) :
    measure p snap apiKey w = (.ok (Gate.estimate snap a),
      ⟨(p.team.count (explanationRequest p.model snap apiKey) w.state).2,
        .count (explanationRequest p.model snap apiKey) a :: w.history⟩) := by
  have hlength : (snap.fileTree ++ "\n" ++ snap.readme).length =
      snap.fileTree.length + 1 + snap.readme.length := by
    rw [String.length_append, String.length_append]
    rfl
  show (consult _ _ >>= _) w = _
  rw [bind_apply, consult_apply, h]
  cases a with
  | ok n => rfl
  | error e =>
    show (Except.ok (Gate.estimateOf _), _) = _
    rw [Gate.estimateOf, hlength]
    rfl
  | panic => exact absurd rfl ha

/-- A run that has read what it needs and says so. -/
def entered (p : Setting σ) (r : DiagramRequest) (s : σ) (snap : Snapshot)
    (a : Answer ProviderError Nat) : World σ :=
  let s' := (p.team.fetch r.owner r.repo r.hostToken s).2
  let q := explanationRequest p.model snap r.apiKey
  ⟨(p.team.count q s').2,
    [.emit startedEvent, .count q a, .fetch r.owner r.repo r.hostToken (.ok snap)]⟩

/-- **A run up to the gate.**  What it does after that depends on the decision alone. -/
theorem diagram_eq (hfetch : (p.team.fetch r.owner r.repo r.hostToken s).1 = .ok snap)
    (hcount : (p.team.count (explanationRequest p.model snap r.apiKey)
      (p.team.fetch r.owner r.repo r.hostToken s).2).1 = a) (ha : a ≠ .panic) :
    diagram p .loyal r ⟨s, []⟩ =
      match Gate.decide p.policy (Gate.estimate snap a) r.apiKey.isSome with
      | some x => (.error (.failed (.rejected x)), entered p r s snap a)
      | none => make p .loyal r snap (entered p r s snap a) := by
  show (ask _ _ _ >>= _) _ = _
  rw [ask_bind hfetch]
  show (measure _ _ _ >>= _) _ = _
  rw [bind_apply, measure_apply hcount ha]
  show (emit _ _ >>= _) _ = _
  rw [bind_apply, emit_of_heard rfl rfl]
  cases Gate.decide p.policy (Gate.estimate snap a) r.apiKey.isSome with
  | some x => rfl
  | none => rfl

/-! ## Behind the gate -/

theorem Generating.generated_ne_nil {q : TextRequest} {event : String → Event} {steps : List Step}
    {out : Except Halt String} (h : Generating q event steps out) : generated steps ≠ [] := by
  rw [h.generated_eq]
  exact List.cons_ne_nil _ _

theorem Staging.generated_ne_nil {x : Stage} {sections : List Section} {apiKey : Option String}
    {steps : List Step} {out : Except Halt String} (h : Staging p x sections apiKey steps out)
    (ho : out ≠ .error (.failed .disconnected)) : generated steps ≠ [] := by
  cases h with
  | opened hg =>
    rw [generated_append]
    exact List.append_ne_nil_of_right_ne_nil _ hg.generated_ne_nil
  | unheard _ => exact absurd rfl ho

theorem Making.generated_ne_nil {steps : List Step} {out : Except Halt Event}
    (h : Making p r snap steps out) (ho : out ≠ .error (.failed .disconnected)) :
    generated steps ≠ [] := by
  cases h with
  | unexplained hx => exact hx.generated_ne_nil (by simpa using ho)
  | unmapped hx _ | undrawn hx _ _ | invalid hx _ _ _ | complete hx _ _ _ =>
    rw [generated_append]
    exact List.append_ne_nil_of_left_ne_nil (hx.generated_ne_nil (by simp)) _

end Run

/-! ## Whole runs -/

namespace Gate.Rejection

theorem message_keyRequired (estimate threshold : Nat) :
    (keyRequired estimate threshold).message =
      "File tree and README combined exceeds token limit (" ++
        String.ofList (groupThousands threshold) ++
        "). This repository is too large for free generation. Provide your own OpenAI API key to " ++
        "continue." := rfl

theorem message_tooLarge (estimate limit : Nat) :
    (tooLarge estimate limit).message =
      "Repository is too large (>" ++ String.ofList (abbreviateThousands limit) ++
        " tokens) for analysis. Try a smaller repo." := rfl

theorem message_ne_empty (x : Rejection) : x.message ≠ "" := by
  intro h
  cases x with
  | keyRequired estimate threshold =>
    rw [message_keyRequired, String.append_eq_empty_iff, String.append_eq_empty_iff,
      String.append_eq_empty_iff] at h
    exact absurd h.1.1.1 (by simp)
  | tooLarge estimate limit =>
    rw [message_tooLarge, String.append_eq_empty_iff, String.append_eq_empty_iff] at h
    exact absurd h.1.1 (by simp)

end Gate.Rejection

theorem terminalEvent?_rejected (x : Gate.Rejection) :
    terminalEvent? (.error (.failed (.rejected x))) =
      some (.error x.message (Failure.rejected x).code none) := by
  have hevent : Failure.event? (.rejected x) = some (.error
      (if x.message = "" then Failure.streamFailed else x.message) (Failure.rejected x).code none) :=
    if_neg (by simp)
  rw [if_neg x.message_ne_empty] at hevent
  exact hevent

/-- The error that turns away a run with the estimate `e`.  It names the limit that was crossed. -/
inductive Gate.TurnsAway (policy : Policy) (e : Nat) : Event → Prop
  | tooLarge {amount : List Char} : policy.limit < e → amount? amount = some policy.limit →
      TurnsAway policy e (.error ("Repository is too large (>" ++ String.ofList amount ++
        " tokens) for analysis. Try a smaller repo.") .tokenLimitExceeded none)
  | keyRequired {amount : List Char} : e ≤ policy.limit → amount? amount = some policy.threshold →
      TurnsAway policy e (.error ("File tree and README combined exceeds token limit (" ++
        String.ofList amount ++
        "). This repository is too large for free generation. Provide your own OpenAI API key to " ++
        "continue.") .apiKeyRequired none)

theorem Gate.turnsAway {policy : Policy} {e : Nat} {hasKey : Bool} {x : Rejection}
    (h : decide policy e hasKey = some x) :
    TurnsAway policy e (.error x.message (Failure.rejected x).code none) := by
  rw [decide] at h
  split at h
  · rename_i hlimit
    cases h
    rw [Rejection.message_tooLarge]
    exact .tooLarge hlimit (amount?_abbreviateThousands policy.limit)
  · rename_i hlimit
    split at h
    · cases h
      rw [Rejection.message_keyRequired]
      exact .keyRequired (Nat.le_of_not_lt hlimit) (amount?_groupThousands policy.threshold)
    · cases h

section

variable {σ : Type} {p : Setting σ} {r : DiagramRequest} {s : σ} {snap : Snapshot}
  {a : Answer ProviderError Nat}

/-- A run that passes the gate asks for a text. -/
theorem generated_of_passes (hfetch : (p.team.fetch r.owner r.repo r.hostToken s).1 = .ok snap)
    (hcount : (p.team.count (explanationRequest p.model snap r.apiKey)
      (p.team.fetch r.owner r.repo r.hostToken s).2).1 = a) (ha : a ≠ .panic)
    (hpass : Gate.Passes p.policy (Gate.estimate snap a) r.apiKey.isSome) :
    generated (execute p .loyal r ⟨s, []⟩).history.reverse ≠ [] := by
  have hdiagram := Run.diagram_eq hfetch hcount ha
  rw [(Gate.decide_eq_none_iff _ _ _).mpr hpass] at hdiagram
  obtain ⟨more, hp, hc⟩ := Run.follows_make (l := .loyal) p r snap (Run.entered p r s snap a) rfl
  rw [(executed_diagram p .loyal r s).all_eq, hdiagram, hp.history, List.reverse_append,
    List.reverse_reverse, generated_append, generated_append]
  have hmore : generated more ≠ [] := hc.generated_ne_nil (hp.heard rfl)
  exact List.append_ne_nil_of_left_ne_nil (List.append_ne_nil_of_right_ne_nil _ hmore) _

theorem execute_of_not_passes (hfetch : (p.team.fetch r.owner r.repo r.hostToken s).1 = .ok snap)
    (hcount : (p.team.count (explanationRequest p.model snap r.apiKey)
      (p.team.fetch r.owner r.repo r.hostToken s).2).1 = a) (ha : a ≠ .panic)
    (hn : ¬ Gate.Passes p.policy (Gate.estimate snap a) r.apiKey.isSome) :
    ∃ x, Gate.TurnsAway p.policy (Gate.estimate snap a) x ∧
      (execute p .loyal r ⟨s, []⟩).history.reverse =
        [.fetch r.owner r.repo r.hostToken (.ok snap),
          .count (explanationRequest p.model snap r.apiKey) a, .emit Run.startedEvent, .emit x] := by
  have hdecide := Gate.decide_of_not_passes hn
  have hdiagram := Run.diagram_eq hfetch hcount ha
  rw [hdecide] at hdiagram
  refine ⟨_, Gate.turnsAway hdecide, ?_⟩
  rw [(executed_diagram p .loyal r s).all_eq, hdiagram, closing_loyal (terminalEvent?_rejected _)]
  rfl

/-- A run asks for a text if and only if the gate lets its estimate pass. -/
theorem generated_iff_passes (hfetch : (p.team.fetch r.owner r.repo r.hostToken s).1 = .ok snap)
    (hcount : (p.team.count (explanationRequest p.model snap r.apiKey)
      (p.team.fetch r.owner r.repo r.hostToken s).2).1 = a) (ha : a ≠ .panic) :
    generated (execute p .loyal r ⟨s, []⟩).history.reverse ≠ [] ↔
      Gate.Passes p.policy (Gate.estimate snap a) r.apiKey.isSome := by
  refine ⟨fun hg => ?_, generated_of_passes hfetch hcount ha⟩
  by_contra hn
  obtain ⟨x, -, hsteps⟩ := execute_of_not_passes hfetch hcount ha hn
  rw [hsteps] at hg
  exact hg rfl

/-- **The gate decides on the whole run.**  Let the fetch succeed and the count give an answer, be
it a failure, and let the listener stay.  A run asks for a text if and only if the gate lets its
estimate pass.  Otherwise it reports that it has started and the error that turns it away, and asks
neither for a text nor for a verdict. -/
theorem execute_gate (p : Setting σ) (r : DiagramRequest) (s : σ) {snap : Snapshot}
    {a : Answer ProviderError Nat}
    (hfetch : (p.team.fetch r.owner r.repo r.hostToken s).1 = .ok snap)
    (hcount : (p.team.count (explanationRequest p.model snap r.apiKey)
      (p.team.fetch r.owner r.repo r.hostToken s).2).1 = a) (ha : a ≠ .panic) :
    let steps := (execute p .loyal r ⟨s, []⟩).history.reverse
    let e := Gate.estimate snap a
    (generated steps ≠ [] ↔ Gate.Passes p.policy e r.apiKey.isSome) ∧
      (¬ Gate.Passes p.policy e r.apiKey.isSome → generated steps = [] ∧ checked steps = [] ∧
        ∃ x, emitted steps = [Run.startedEvent, x] ∧ Gate.TurnsAway p.policy e x) := by
  intro steps e
  have hrejected : ¬ Gate.Passes p.policy e r.apiKey.isSome → generated steps = [] ∧
      checked steps = [] ∧
      ∃ x, emitted steps = [Run.startedEvent, x] ∧ Gate.TurnsAway p.policy e x := by
    intro hn
    obtain ⟨x, hx, hsteps⟩ := execute_of_not_passes hfetch hcount ha hn
    have hsteps : steps = _ := hsteps
    rw [hsteps]
    exact ⟨rfl, rfl, x, rfl, hx⟩
  exact ⟨generated_iff_passes hfetch hcount ha, hrejected⟩

end

theorem execute_gate_uncounted :
    let snap : Snapshot := ⟨"main", "dürer.c\nλ.hs", "# é"⟩
    let a : Answer ProviderError Nat := .error (.stream "no count today")
    let p : Setting Rehearsal := ⟨Rehearsal.team, ⟨12500, 3⟩, "o4-mini", ⟨0⟩, 2⟩
    let r : DiagramRequest := ⟨"octo", "demo", some "sk-own", none⟩
    let steps := (execute p .loyal r ⟨⟨.ok snap, a, [], []⟩, []⟩).history.reverse
    a ≠ .panic ∧ Gate.estimate snap a = 4 ∧ ¬ Gate.Passes p.policy 4 true ∧
      generated steps = [] ∧ checked steps = [] ∧
      ∃ x, emitted steps = [Run.startedEvent, x] ∧ Gate.TurnsAway p.policy 4 x := by
  intro snap a p r steps
  have ha : a ≠ .panic := nofun
  have he : Gate.estimate snap a = 4 := by decide
  have hn : ¬ Gate.Passes p.policy 4 true := fun h => absurd h.1 (by decide)
  have hn' : ¬ Gate.Passes p.policy (Gate.estimate snap a) true := he ▸ hn
  obtain ⟨hg, hc, x, hx, ht⟩ :=
    (execute_gate p r ⟨.ok snap, a, [], []⟩ (rfl : _ = Answer.ok snap) (rfl : _ = a) ha).2 hn'
  exact ⟨ha, he, hn, hg, hc, x, hx, he ▸ ht⟩

end ArchDiagram
