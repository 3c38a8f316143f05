import ArchDiagram.Proofs.Run.Delivery
import ArchDiagram.Proofs.Run.Passage
import ArchDiagram.Proofs.Run.Report

/-!
# What a run asks for

A run fetches once, counts at most once and then asks for the texts of its stages, each of which
reads what the stages before found out, and for those of its repairs.  The explanation and the
mapping that it hands on are those that its listener reads.

* `Part`: a part of a run behind the gate, by what it asks for.
* `stageInputs`, `IsRepair`: the requests of the stages and of repairs.
* `Run.Making.requests`: **what is asked for behind the gate**.
* `execute_inputs`: **what a whole run asks for**.
-/

namespace ArchDiagram

theorem fetched_append (a b : List Step) : fetched (a ++ b) = fetched a ++ fetched b :=
  List.filterMap_append

theorem counted_append (a b : List Step) : counted (a ++ b) = counted a ++ counted b :=
  List.filterMap_append

theorem checked_append (a b : List Step) : checked (a ++ b) = checked a ++ checked b :=
  List.filterMap_append

/-! ## Parts of a run -/

/-- A part of a run behind the gate.  It passes on no text of the stages `others`, asks at most `g`
times for a text, always by a request with the property `R`, and checks at most `c` diagrams. -/
structure Part (others : Stage → Prop) (R : TextRequest → Prop) (g c : Nat) (steps : List Step) :
    Prop where
  chunks : ∀ s, others s → s.chunks (emitted steps) = []
  requests : ∀ q ∈ generated steps, R q
  generated_le : (generated steps).length ≤ g
  checked_le : (checked steps).length ≤ c
  fetched : fetched steps = []
  counted : counted steps = []
  snapshots : snapshots steps = []

section

variable {others : Stage → Prop} {R : TextRequest → Prop} {g c g' c' : Nat} {a b : List Step}

theorem Part.append (ha : Part others R g c a) (hb : Part others R g' c' b) :
    Part others R (g + g') (c + c') (a ++ b) where
  chunks s hs := by rw [emitted_append, Stage.chunks_append, ha.chunks s hs, hb.chunks s hs]; rfl
  requests q hq := by
    rw [generated_append, List.mem_append] at hq
    exact hq.elim (ha.requests q) (hb.requests q)
  generated_le := by
    rw [generated_append, List.length_append]
    exact Nat.add_le_add ha.generated_le hb.generated_le
  checked_le := by
    rw [checked_append, List.length_append]
    exact Nat.add_le_add ha.checked_le hb.checked_le
  fetched := by rw [fetched_append, ha.fetched, hb.fetched]; rfl
  counted := by rw [counted_append, ha.counted, hb.counted]; rfl
  snapshots := by rw [snapshots_append, ha.snapshots, hb.snapshots]; rfl

theorem Part.le (h : Part others R g c a) (hg : g ≤ g') (hc : c ≤ c') : Part others R g' c' a :=
  { h with
    generated_le := Nat.le_trans h.generated_le hg
    checked_le := Nat.le_trans h.checked_le hc }

theorem Part.weaken {R' : TextRequest → Prop} (h : Part others R g c a) (hR : ∀ q, R q → R' q) :
    Part (fun _ => False) R' g c a :=
  { h with
    chunks := fun _ => False.elim
    requests := fun q hq => hR q (h.requests q hq) }

theorem part_nil : Part others R 0 0 [] :=
  ⟨fun _ _ => rfl, nofun, Nat.le_refl _, Nat.le_refl _, rfl, rfl, rfl⟩

theorem part_generate {q : TextRequest} (hq : R q) (y : Answer ProviderError TextStream) :
    Part others R 1 0 [.generate q y] where
  chunks _ _ := rfl
  requests q' hq' := by rwa [List.mem_singleton.mp hq']
  generated_le := Nat.le_refl _
  checked_le := Nat.le_refl _
  fetched := rfl
  counted := rfl
  snapshots := rfl

theorem part_check (d : String) (y : Answer Empty Verdict) : Part others R 0 1 [.check d y] :=
  ⟨fun _ _ => rfl, nofun, Nat.le_refl _, Nat.le_refl _, rfl, rfl, rfl⟩

/-- A step that asks nothing, and passes on no text of the stages `others`. -/
def Step.IsIdle (others : Stage → Prop) : Step → Prop
  | .emit e => ∀ s, others s → s.chunk? e = none
  | .pause _ => True
  | _ => False

theorem filterMap_of_idle {α : Type} {f : Step → Option α} {steps : List Step}
    (hf : ∀ x, x.IsIdle others → f x = none) (h : ∀ x ∈ steps, x.IsIdle others) :
    steps.filterMap f = [] :=
  List.filterMap_eq_nil_iff.mpr fun x hx => hf x (h x hx)

theorem part_of_idle {steps : List Step} (h : ∀ x ∈ steps, x.IsIdle others) :
    Part others R 0 0 steps := by
  have hnone : ∀ {α : Type} {f : Step → Option α}, (∀ e, f (.emit e) = none) →
      (∀ d, f (.pause d) = none) → steps.filterMap f = [] := by
    intro α f he hd
    refine filterMap_of_idle ?_ h
    intro x hx
    cases x with
    | emit e => exact he e
    | pause d => exact hd d
    | fetch | count | generate | check => exact hx.elim
  have hgenerated : generated steps = [] := hnone (fun _ => rfl) fun _ => rfl
  have hchecked : checked steps = [] := hnone (fun _ => rfl) fun _ => rfl
  constructor
  case chunks =>
    intro s hs
    rw [Stage.chunks, emitted, List.filterMap_filterMap]
    refine filterMap_of_idle ?_ h
    intro x hx
    cases x with
    | emit e => exact hx s hs
    | pause d => rfl
    | fetch | count | generate | check => exact hx.elim
  case requests => simp [hgenerated]
  case generated_le => simp [hgenerated]
  case checked_le => simp [hchecked]
  case fetched => exact hnone (fun _ => rfl) fun _ => rfl
  case counted => exact hnone (fun _ => rfl) fun _ => rfl
  case snapshots => exact hnone (fun _ => rfl) fun _ => rfl

theorem part_emit {e : Event} (he : ∀ s, others s → s.chunk? e = none) :
    Part others R 0 0 [.emit e] := by
  refine part_of_idle ?_
  intro x hx
  rw [List.mem_singleton.mp hx]
  exact he

end

/-! ## Requests -/

/-- A request that goes to the model of a run, with the key that the run was given. -/
def IsSigned (model : String) (apiKey : Option String) (q : TextRequest) : Prop :=
  q.model = model ∧ q.apiKey = apiKey

/-- A request to repair a diagram.  Its last two sections are the explanation `x` and the mapping
`m`. -/
def IsRepair (model : String) (apiKey : Option String) (x m : String) (q : TextRequest) : Prop :=
  ∃ diagram feedback, q = {
    model := model
    instructions := Instructions.repair
    sections := [⟨"mermaid_code", diagram⟩, ⟨"parser_error", feedback⟩, ⟨"explanation", x⟩,
      ⟨"component_mapping", m⟩]
    effort := some .low
    apiKey := apiKey
    maxOutputTokens := none
    caller := "pipeline::repair" }

/-- The requests of the three stages, where the snapshot is `snap`, the first stage finds the
explanation `x` and the second one the mapping `m`. -/
def stageInputs (model : String) (apiKey : Option String) (snap : Snapshot) (x m : String) :
    List TextRequest :=
  [{ model := model
     instructions := Instructions.explanation
     sections := [⟨"file_tree", snap.fileTree⟩, ⟨"readme", snap.readme⟩]
     effort := some .medium
     apiKey := apiKey
     maxOutputTokens := none
     caller := "pipeline::explanation" },
   { model := model
     instructions := Instructions.mapping
     sections := [⟨"explanation", x⟩, ⟨"file_tree", snap.fileTree⟩]
     effort := some .low
     apiKey := apiKey
     maxOutputTokens := none
     caller := "pipeline::mapping" },
   { model := model
     instructions := Instructions.diagram
     sections := [⟨"explanation", x⟩, ⟨"component_mapping", m⟩]
     effort := some .low
     apiKey := apiKey
     maxOutputTokens := none
     caller := "pipeline::diagram" }]

namespace Run

variable {σ : Type} {p : Setting σ} {apiKey : Option String} {f : Findings} {r : DiagramRequest}

theorem Generating.part {others : Stage → Prop} {R : TextRequest → Prop} {q : TextRequest}
    {event : String → Event} {steps : List Step} {out : Except Halt String}
    (h : Generating q event steps out) (hq : R q)
    (he : ∀ s, others s → ∀ c, s.chunk? (event c) = none) : Part others R 1 0 steps := by
  have hidle : ∀ cs, ∀ x ∈ increments event cs, x.IsIdle others := by
    intro cs x hx
    obtain ⟨c, -, rfl⟩ := List.mem_map.mp hx
    exact fun s hs => he s hs c
  cases h with
  | whole cs => exact (part_generate hq _).append (part_of_idle (hidle cs))
  | unopened _ => exact part_generate hq _
  | cut _ => exact (part_generate hq _).append (part_of_idle (hidle _))
  | unheard hfront =>
    exact (part_generate hq _).append (part_of_idle fun x hx => hidle _ x (hfront.subset hx))

theorem Staging.part {s : Stage} {sections : List Section} {steps : List Step}
    {out : Except Halt String} (h : Staging p s sections apiKey steps out) :
    Part (· ≠ s) (· = s.request p.model sections apiKey) 1 0 steps := by
  have hidle : ∀ x ∈ s.opening p, x.IsIdle (· ≠ s) := by
    intro x hx
    rw [Stage.opening, pauses] at hx
    split at hx
    all_goals
      simp only [List.nil_append, List.cons_append, List.mem_cons, List.not_mem_nil, or_false] at hx
    · rcases hx with rfl | rfl
      · exact fun s' _ => Stage.chunk?_sentEvent s' s _
      · exact fun s' _ => Stage.chunk?_progressEvent s' s
    · rcases hx with rfl | rfl | rfl
      · exact fun s' _ => Stage.chunk?_sentEvent s' s _
      · trivial
      · exact fun s' _ => Stage.chunk?_progressEvent s' s
  cases h with
  | @opened steps _ hg =>
    have hother : ∀ s', s' ≠ s → ∀ c, s'.chunk? (s.chunkEvent c) = none := by
      intro s' hs c
      rw [Stage.chunk?_chunkEvent, if_neg (Ne.symm hs)]
    have hsteps : Part (· ≠ s) (· = s.request p.model sections apiKey) 1 0 steps :=
      hg.part rfl hother
    exact (part_of_idle hidle).append hsteps
  | unheard hfront =>
    exact (part_of_idle fun x hx => hidle x (hfront.subset hx)).le (Nat.zero_le 1) (Nat.le_refl 0)

/-- A stage asks for its text, unless its listener leaves before. -/
theorem Staging.generated_isPrefix {s : Stage} {sections : List Section} {steps : List Step}
    {out : Except Halt String} (h : Staging p s sections apiKey steps out) :
    generated steps <+: [s.request p.model sections apiKey] := by
  cases h with
  | opened hg =>
    rw [generated_append, generated_opening, hg.generated_eq]
    exact List.prefix_rfl
  | unheard hfront =>
    rw [generated_of_isPrefix hfront (generated_opening s p)]
    exact List.nil_prefix

/-- A stage that is done has asked for its text, and the text is what it has passed on. -/
theorem Staging.done {s : Stage} {sections : List Section} {steps : List Step} {text : String}
    (h : Staging p s sections apiKey steps (.ok text)) :
    generated steps = [s.request p.model sections apiKey] ∧
      String.join (s.chunks (emitted steps)) = text := by
  obtain ⟨cs, hcs, htext⟩ := h.emitted_eq (by simp)
  constructor
  · cases h with
    | opened hg => rw [generated_append, generated_opening, hg.generated_eq, List.nil_append]
  · rw [hcs, Stage.chunks_block, if_pos rfl]
    exact htext text rfl

/-! ## Repairs -/

theorem Round.part {i : Nat} {diagram : String} {v : Verdict} {steps : List Step}
    {out : Except Halt (String × Verdict)} (h : Round p apiKey f i diagram v steps out) :
    Part (fun _ => True) (IsRepair p.model apiKey f.explanation f.mapping) 1 1 steps := by
  have hattempt : ∀ s : Stage, s.chunk? (v.attemptEvent i p.maxRepairs) = none := by
    intro s
    cases s <;> rfl
  have hvalidating : ∀ s : Stage, s.chunk? (validatingEvent i p.maxRepairs) = none := by
    intro s
    cases s <;> rfl
  -- What the attempt does before its diagram is checked.
  have hmending : ∀ {steps out}, Mending p apiKey f i diagram v steps out →
      Part (fun _ => True) (IsRepair p.model apiKey f.explanation f.mapping) 1 0
        (.emit (v.attemptEvent i p.maxRepairs) :: steps) := by
    intro steps out hm
    refine (part_emit fun s _ => hattempt s).append (hm.part ⟨diagram, v.feedback, rfl⟩ ?_)
    intro s _ c
    cases s <;> rfl
  have hchecking : ∀ d y, Part (fun _ => True) (IsRepair p.model apiKey f.explanation f.mapping) 0 1
      [.emit (validatingEvent i p.maxRepairs), .check d y] := by
    intro d y
    exact (part_emit fun s _ => hvalidating s).append (part_check d y)
  cases h with
  | judged v' hm _ => exact (hmending hm).append (hchecking _ _)
  | unchecked hm _ => exact (hmending hm).append (hchecking _ _)
  | unmended hm => exact (hmending hm).le (Nat.le_refl _) (Nat.zero_le _)
  | unheard => exact part_nil.le (Nat.zero_le _) (Nat.zero_le _)
  | unheardAfter hm => exact (hmending hm).le (Nat.le_refl _) (Nat.zero_le _)

theorem Repairing.part {i left : Nat} {diagram : String} {v : Verdict} {steps : List Step}
    {out : Except Halt (String × Verdict)}
    (h : Repairing p apiKey f i diagram v left steps out) :
    Part (fun _ => True) (IsRepair p.model apiKey f.explanation f.mapping) left left steps := by
  induction h with
  | rest _ => exact part_nil.le (Nat.zero_le _) (Nat.zero_le _)
  | halted _ hr => exact hr.part.le (by omega) (by omega)
  | next _ hr _ ih => exact (hr.part.append ih).le (by omega) (by omega)

/-- A repair asks for no more texts than there are attempts, and checks one diagram more. -/
theorem Ensuring.part {diagram : String} {steps : List Step} {out : Except Halt String}
    (h : Ensuring p apiKey f diagram steps out) :
    Part (fun _ => True) (IsRepair p.model apiKey f.explanation f.mapping) p.maxRepairs
      (1 + p.maxRepairs) steps := by
  have hfixing : ∀ {v : Verdict} {steps : List Step} {out : Except Halt (String × Verdict)},
      Repairing p apiKey f 1 diagram v p.maxRepairs steps out →
      Part (fun _ => True) (IsRepair p.model apiKey f.explanation f.mapping) p.maxRepairs
        (1 + p.maxRepairs) (.check diagram (.ok v) :: .emit v.fixingEvent :: steps) := by
    intro v steps out hr
    have hsteps := (part_check diagram (.ok v)).append
      ((part_emit fun s _ => (isMute_fixingEvent v).chunk s).append hr.part)
    exact hsteps.le (by omega) (by omega)
  cases h with
  | unchecked => exact (part_check _ _).le (Nat.zero_le _) (by omega)
  | accepted _ => exact (part_check _ _).le (Nat.zero_le _) (by omega)
  | unheard _ => exact (part_check _ _).le (Nat.zero_le _) (by omega)
  | halted _ hr => exact hfixing hr
  | unresolved _ hr _ => exact hfixing hr
  | unheardAfter _ hr _ => exact hfixing hr
  | repaired _ hr _ =>
    exact (hfixing hr).append (part_emit fun s _ => isMute_fixedEvent.chunk s)

/-! ## Behind the gate -/

/-- Behind the gate at most three texts are asked for besides the repairs. -/
theorem Making.part {s : Snapshot} {steps : List Step} {out : Except Halt Event}
    (h : Making p r s steps out) :
    Part (fun _ => False) (IsSigned p.model r.apiKey) (3 + p.maxRepairs) (1 + p.maxRepairs)
      steps := by
  have hstage : ∀ {x : Stage} {sections : List Section} {steps : List Step}
      {out : Except Halt String}, Staging p x sections r.apiKey steps out →
      Part (fun _ => False) (IsSigned p.model r.apiKey) 1 0 steps := by
    intro x sections steps out hx
    refine hx.part.weaken ?_
    rintro q rfl
    exact ⟨rfl, rfl⟩
  have hrepair : ∀ {f : Findings} {diagram : String} {steps : List Step}
      {out : Except Halt String}, Ensuring p r.apiKey f diagram steps out →
      Part (fun _ => False) (IsSigned p.model r.apiKey) p.maxRepairs (1 + p.maxRepairs) steps := by
    intro f diagram steps out hd
    refine hd.part.weaken ?_
    rintro q ⟨diagram, feedback, rfl⟩
    exact ⟨rfl, rfl⟩
  cases h with
  | unexplained ha => exact (hstage ha).le (by omega) (Nat.zero_le _)
  | unmapped ha hb => exact ((hstage ha).append (hstage hb)).le (by omega) (Nat.zero_le _)
  | undrawn ha hb hc =>
    exact ((hstage ha).append ((hstage hb).append (hstage hc))).le (by omega) (Nat.zero_le _)
  | invalid ha hb hc hd | complete ha hb hc hd =>
    have hsteps := (hstage ha).append ((hstage hb).append ((hstage hc).append (hrepair hd)))
    exact hsteps.le (by omega) (by omega)

/-- What the first two stages find out is what they have passed on, if nothing of theirs is passed
on after them. -/
theorem join_chunks_eq {s : Snapshot} {a b more : List Step} {explanation answer : String}
    (ha : Explaining p r s a (.ok explanation)) (hb : Mapping p r s explanation b (.ok answer))
    (hmore : ∀ x, x ≠ Stage.diagram → x.chunks (emitted more) = []) :
    String.join (Stage.explanation.chunks (emitted (a ++ (b ++ more)))) = explanation ∧
      String.join (Stage.mapping.chunks (emitted (a ++ (b ++ more)))) = answer := by
  have hab : Stage.mapping.chunks (emitted a) = [] := ha.part.chunks _ (by decide)
  have hba : Stage.explanation.chunks (emitted b) = [] := hb.part.chunks _ (by decide)
  simp only [emitted_append, Stage.chunks_append]
  rw [hab, hba, hmore _ (by decide), hmore _ (by decide), List.append_nil, List.append_nil,
    List.append_nil, List.nil_append]
  exact ⟨ha.done.2, hb.done.2⟩

/-- **What is asked for behind the gate.**  The stages come first, and whatever comes after them is
a repair.  The explanation and the mapping are those that are passed on. -/
theorem Making.requests {s : Snapshot} {steps : List Step} {out : Except Halt Event}
    (h : Making p r s steps out) :
    let x := String.join (Stage.explanation.chunks (emitted steps))
    let m := Diagram.mappingOf (String.join (Stage.mapping.chunks (emitted steps)))
    ∃ repairs, generated steps <+: stageInputs p.model r.apiKey s x m ++ repairs ∧
      ∀ q ∈ repairs, IsRepair p.model r.apiKey x m q := by
  cases h with
  | unexplained ha => exact ⟨[], ha.generated_isPrefix.trans ⟨_, rfl⟩, nofun⟩
  | @unmapped a b explanation _ ha hb =>
    have hba : Stage.explanation.chunks (emitted b) = [] := hb.part.chunks _ (by decide)
    have hx : String.join (Stage.explanation.chunks (emitted (a ++ b))) = explanation := by
      rw [emitted_append, Stage.chunks_append, hba, List.append_nil, ha.done.2]
    refine ⟨[], ?_, nofun⟩
    rw [hx, generated_append, ha.done.1]
    exact ((List.prefix_append_right_inj _).mpr hb.generated_isPrefix).trans ⟨_, rfl⟩
  | undrawn ha hb hc =>
    obtain ⟨hx, hm⟩ := join_chunks_eq ha hb hc.part.chunks
    refine ⟨[], ?_, nofun⟩
    rw [hx, hm, generated_append, generated_append, ha.done.1, hb.done.1]
    refine List.IsPrefix.trans ?_ ⟨_, rfl⟩
    exact (List.prefix_append_right_inj _).mpr
      ((List.prefix_append_right_inj _).mpr hc.generated_isPrefix)
  | @invalid a b c d explanation answer _ _ ha hb hc hd
  | @complete a b c d explanation answer _ _ ha hb hc hd =>
    have hcd : ∀ x, x ≠ Stage.diagram → x.chunks (emitted (c ++ d)) = [] := by
      intro x hx
      rw [emitted_append, Stage.chunks_append, hc.part.chunks x hx, hd.part.chunks x trivial]
      rfl
    obtain ⟨hx, hm⟩ := join_chunks_eq ha hb hcd
    refine ⟨generated d, ?_, ?_⟩
    · rw [hx, hm, generated_append, generated_append, generated_append, ha.done.1, hb.done.1,
        hc.done.1]
      exact List.prefix_rfl
    · rw [hx, hm]
      exact hd.part.requests

end Run

/-! ## Whole runs -/

/-- What a run asks for, by its steps. -/
structure Inputs {σ : Type} (p : Setting σ) (r : DiagramRequest) (steps : List Step) : Prop where
  /-- There is one fetch. -/
  fetched : fetched steps = [(r.owner, r.repo, r.hostToken)]
  counted_le : (counted steps).length ≤ 1
  generated_le : (generated steps).length ≤ 3 + p.maxRepairs
  checked_le : (checked steps).length ≤ 1 + p.maxRepairs
  signed : ∀ q ∈ counted steps ++ generated steps, IsSigned p.model r.apiKey q
  /-- The requests for a text are the first ones of those of the stages and some repairs.  The
  explanation and the mapping that they carry are read off the events. -/
  requests : generated steps = [] ∨ ∃ snap repairs, snapshots steps = [.ok snap] ∧
    let x := String.join (Stage.explanation.chunks (emitted steps))
    let m := Diagram.mappingOf (String.join (Stage.mapping.chunks (emitted steps)))
    generated steps <+: stageInputs p.model r.apiKey snap x m ++ repairs ∧
      ∀ q ∈ repairs, IsRepair p.model r.apiKey x m q
  /-- A text is done when the next one is asked for. -/
  inTurn : EachText InTurn steps

section

variable {σ : Type} {p : Setting σ} {r : DiagramRequest} {last : List Step}

theorem Run.Measuring.asks {s : Snapshot} {apiKey : Option String} {steps : List Step}
    {out : Except Halt Nat} (h : Run.Measuring p s apiKey steps out) :
    ∃ y, steps = [.count (explanationRequest p.model s apiKey) y] := by
  cases h <;> exact ⟨_, rfl⟩

theorem Part.generated_eq {others : Stage → Prop} {R : TextRequest → Prop} {c : Nat}
    {steps : List Step} (h : Part others R 0 c steps) : generated steps = [] :=
  List.length_eq_zero_iff.mp (Nat.le_zero.mp h.generated_le)

/-- What is asked for after a snapshot has been measured. -/
theorem inputs_of_part {snap : Snapshot} {y : Answer ProviderError Nat} {rest : List Step}
    (h : Part (fun _ => False) (IsSigned p.model r.apiKey) (3 + p.maxRepairs) (1 + p.maxRepairs)
      rest)
    (hrequests : ∃ repairs,
      let x := String.join (Stage.explanation.chunks (emitted rest))
      let m := Diagram.mappingOf (String.join (Stage.mapping.chunks (emitted rest)))
      generated rest <+: stageInputs p.model r.apiKey snap x m ++ repairs ∧
        ∀ q ∈ repairs, IsRepair p.model r.apiKey x m q)
    (hturn : EachText InTurn (.fetch r.owner r.repo r.hostToken (.ok snap) ::
      .count (explanationRequest p.model snap r.apiKey) y :: rest)) :
    Inputs p r (.fetch r.owner r.repo r.hostToken (.ok snap) ::
      .count (explanationRequest p.model snap r.apiKey) y :: rest) where
  fetched := congrArg (_ :: ·) h.fetched
  counted_le := by
    show (_ :: counted rest).length ≤ 1
    rw [h.counted]
    exact Nat.le_refl _
  generated_le := h.generated_le
  checked_le := h.checked_le
  signed := by
    intro q hq
    rcases List.mem_append.mp hq with hq | hq
    · have hcounted : q ∈ explanationRequest p.model snap r.apiKey :: counted rest := hq
      rw [h.counted, List.mem_singleton] at hcounted
      rw [hcounted]
      exact ⟨rfl, rfl⟩
    · exact h.requests q hq
  requests := by
    obtain ⟨repairs, hrepairs⟩ := hrequests
    exact Or.inr ⟨snap, repairs, congrArg (_ :: ·) h.snapshots, hrepairs⟩
  inTurn := hturn

theorem inputs_of_idle {snap : Snapshot} {y : Answer ProviderError Nat} {rest : List Step}
    (h : Part (fun _ => True) (IsSigned p.model r.apiKey) 0 0 rest)
    (hturn : EachText InTurn (.fetch r.owner r.repo r.hostToken (.ok snap) ::
      .count (explanationRequest p.model snap r.apiKey) y :: rest)) :
    Inputs p r (.fetch r.owner r.repo r.hostToken (.ok snap) ::
      .count (explanationRequest p.model snap r.apiKey) y :: rest) := by
  have hrest := (h.weaken fun _ => id).le (Nat.zero_le (3 + p.maxRepairs))
    (Nat.zero_le (1 + p.maxRepairs))
  refine inputs_of_part hrest ⟨[], ?_, nofun⟩ hturn
  rw [h.generated_eq]
  exact List.nil_prefix

/-- What is asked for up to the terminal event.  After it nothing is. -/
theorem Run.Drawing.inputs {steps : List Step} {out : Except Halt Event}
    (h : Run.Drawing p r steps out)
    (hlast : Part (fun _ => True) (IsSigned p.model r.apiKey) 0 0 last)
    (hturn : EachText InTurn (steps ++ last)) : Inputs p r (steps ++ last) := by
  have hstarted : Part (fun _ => True) (IsSigned p.model r.apiKey) 0 0 [.emit startedEvent] :=
    part_emit fun s _ => isMute_startedEvent.chunk s
  cases h with
  | unfetched _ =>
    have hcounted : counted last = [] := hlast.counted
    have hgenerated : generated last = [] := hlast.generated_eq
    constructor
    case fetched => exact congrArg (_ :: ·) hlast.fetched
    case counted_le =>
      show (counted last).length ≤ 1
      simp [hcounted]
    case generated_le => exact (hlast.le (Nat.zero_le _) (Nat.zero_le 0)).generated_le
    case checked_le => exact (hlast.le (Nat.zero_le 0) (Nat.zero_le _)).checked_le
    case signed =>
      show ∀ q ∈ counted last ++ generated last, _
      simp [hcounted, hgenerated]
    case requests => exact Or.inl hgenerated
    case inTurn => exact hturn
  | unmeasured hm =>
    obtain ⟨y, rfl⟩ := hm.asks
    exact inputs_of_idle hlast hturn
  | unheard hm =>
    obtain ⟨y, rfl⟩ := hm.asks
    exact inputs_of_idle hlast hturn
  | rejected hm _ =>
    obtain ⟨y, rfl⟩ := hm.asks
    exact inputs_of_idle (hstarted.append hlast) hturn
  | @passed s _ steps _ _ hm _ hs =>
    obtain ⟨y, rfl⟩ := hm.asks
    have hrest := (hstarted.weaken fun _ => id).append
      (hs.part.append (hlast.weaken fun _ => id))
    have hevents : ∀ x : Stage, x.chunks (emitted (.emit startedEvent :: (steps ++ last))) =
        x.chunks (emitted steps) := by
      intro x
      rw [← List.singleton_append, emitted_append, emitted_append, Stage.chunks_append,
        Stage.chunks_append, hstarted.chunks x trivial, hlast.chunks x trivial, List.nil_append,
        List.append_nil]
    have hgenerated : generated (.emit startedEvent :: (steps ++ last)) = generated steps := by
      rw [← List.singleton_append, generated_append, generated_append, hstarted.generated_eq,
        hlast.generated_eq, List.nil_append, List.append_nil]
    show Inputs p r (_ :: _ :: .emit startedEvent :: (steps ++ last))
    refine inputs_of_part (hrest.le (by omega) (by omega)) ?_ hturn
    rw [hevents, hevents, hgenerated]
    exact hs.requests

theorem chunk?_of_isTerminal {e : Event} (he : e.isTerminal = true) (s : Stage) :
    s.chunk? e = none := by
  cases e with
  | complete | error => cases s <;> rfl
  | _ => cases he

theorem Run.Drawing.isTerminal {steps : List Step} {out : Except Halt Event}
    (h : Run.Drawing p r steps out) {e : Event} (he : terminalEvent? out = some e) :
    e.isTerminal = true := by
  rcases out with (f | _ | _) | e'
  · simp only [terminalEvent?, Failure.event?] at he
    split at he
    · cases he
    · cases he
      rfl
  · cases he
    rfl
  · cases he
  · cases he
    exact Event.isTerminal_of_isComplete h.isComplete

theorem Run.Drawing.part_closing {R : TextRequest → Prop} {steps : List Step}
    {out : Except Halt Event} (h : Run.Drawing p r steps out) (l : Listener) :
    Part (fun _ => True) R 0 0 (closing l steps out) := by
  rw [closing]
  cases he : terminalEvent? out with
  | none => exact part_nil
  | some e =>
    dsimp only
    split
    · exact part_emit fun s _ => chunk?_of_isTerminal (h.isTerminal he) s
    · exact part_nil

end

/-- **What a whole run asks for**, whoever listens and whatever the collaborators answer. -/
theorem execute_inputs {σ : Type} (p : Setting σ) (l : Listener) (r : DiagramRequest) (s : σ) :
    Inputs p r (execute p l r ⟨s, []⟩).history.reverse := by
  have hx := executed_diagram p l r s
  have hturn := execute_inTurn p l r s
  rw [hx.all_eq] at hturn ⊢
  exact hx.course.inputs (hx.course.part_closing l) hturn

end ArchDiagram
