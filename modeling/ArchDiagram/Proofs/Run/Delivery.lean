import ArchDiagram.Proofs.Run.Pipeline
import ArchDiagram.Proofs.Run.View
import ArchDiagram.Run.Rehearsal

/-!
# What a run delivers

A finished diagram is what was streamed and checked.  Its explanation and its mapping are read off
the increments of their stages; the diagram is read off those of the last attempt to repair it, or
of its stage if there was no attempt (`draft`), and it is the one that was checked last.

* `EndsWith`: the last of some checks, before which every check rejects.
* `Run.Repairing.drafts`: what is repaired is the text of the last attempt, and checked last.
* `Run.Settled`: what is known of a diagram that was made valid.
* `Delivered`: what is delivered, in terms of the steps of the run.
* `execute_delivers`: **every run that ends with a diagram delivers it so**.
-/

namespace ArchDiagram

/-! ## Reading the events -/

/-- The increment of a stage's output that an event passes on. -/
def Stage.chunk? : Stage → Event → Option String
  | explanation, .explanationChunk c => some c
  | mapping, .mappingChunk c => some c
  | diagram, .diagramChunk c => some c
  | _, _ => none

def Stage.chunks (s : Stage) (events : List Event) : List String :=
  events.filterMap s.chunk?

/-- The attempt to repair a diagram that an event announces. -/
def Event.attempt? : Event → Option Nat
  | diagramFixAttempt _ i _ _ => some i
  | _ => none

def attempts (events : List Event) : List Nat :=
  events.filterMap Event.attempt?

/-- The increment of the repaired diagram of the attempt `i` that an event passes on. -/
def Event.fixChunk? (i : Nat) : Event → Option String
  | diagramFixChunk c j _ => if j = i then some c else none
  | _ => none

def fixChunks (i : Nat) (events : List Event) : List String :=
  events.filterMap (Event.fixChunk? i)

/-- The text of the diagram as it stands: of the highest attempt to repair it, or as it was first
drawn. -/
def draft (events : List Event) : String :=
  match (attempts events).max? with
  | none => String.join (Stage.diagram.chunks events)
  | some i => String.join (fixChunks i events)

@[simp] theorem fixChunks_nil (i : Nat) : fixChunks i [] = [] := rfl

@[simp] theorem Stage.chunks_append (s : Stage) (a b : List Event) :
    s.chunks (a ++ b) = s.chunks a ++ s.chunks b :=
  List.filterMap_append

@[simp] theorem attempts_append (a b : List Event) : attempts (a ++ b) = attempts a ++ attempts b :=
  List.filterMap_append

@[simp] theorem fixChunks_append (i : Nat) (a b : List Event) :
    fixChunks i (a ++ b) = fixChunks i a ++ fixChunks i b :=
  List.filterMap_append

@[simp] theorem Stage.chunk?_sentEvent (s s' : Stage) (model : String) :
    s.chunk? (s'.sentEvent model) = none := by
  cases s <;> cases s' <;> rfl

@[simp] theorem Stage.chunk?_progressEvent (s s' : Stage) : s.chunk? s'.progressEvent = none := by
  cases s <;> cases s' <;> rfl

theorem Stage.chunk?_chunkEvent (s s' : Stage) (c : String) :
    s.chunk? (s'.chunkEvent c) = if s' = s then some c else none := by
  cases s <;> cases s' <;> rfl

/-- The block of a stage passes on the increments of this stage and of no other. -/
theorem Stage.chunks_block (s s' : Stage) (model : String) (cs : List String) :
    s.chunks (s'.block model cs) = if s' = s then cs else [] := by
  have hc : s.chunk? ∘ s'.chunkEvent = fun c => if s' = s then some c else none :=
    funext fun c => chunk?_chunkEvent s s' c
  rw [chunks, block_eq, List.filterMap_cons_none (by simp), List.filterMap_cons_none (by simp),
    List.filterMap_map, hc]
  by_cases hs : s' = s
  · simp [hs]
  · simp [hs]

@[simp] theorem Stage.attempts_block (s : Stage) (model : String) (cs : List String) :
    attempts (s.block model cs) = [] := by
  cases s <;> simp [attempts, block, Event.attempt?]

@[simp] theorem Stage.fixChunks_block (i : Nat) (s : Stage) (model : String) (cs : List String) :
    fixChunks i (s.block model cs) = [] := by
  cases s <;> simp [fixChunks, block, Event.fixChunk?]

@[simp] theorem Verdict.chunks_block (s : Stage) (v : Verdict) (i n : Nat) (cs : List String) :
    s.chunks (v.block i n cs) = [] := by
  have hc : s.chunk? ∘ fixChunk i n = fun _ => none := by
    funext c
    cases s <;> rfl
  have hv : s.chunk? (validatingEvent i n) = none := by cases s <;> rfl
  rw [Stage.chunks, block_eq, List.filterMap_cons_none (by cases s <;> rfl), List.filterMap_append,
    List.filterMap_map, hc]
  simp [hv]

theorem Verdict.attempts_block (v : Verdict) (i n : Nat) (cs : List String) :
    attempts (v.block i n cs) = [i] := by
  have ha : Event.attempt? (v.attemptEvent i n) = some i := rfl
  have hc : Event.attempt? ∘ fixChunk i n = fun _ => none := rfl
  have hv : Event.attempt? (validatingEvent i n) = none := rfl
  rw [attempts, block_eq, List.filterMap_cons_some ha, List.filterMap_append, List.filterMap_map, hc]
  simp [hv]

/-- The block of an attempt passes on the increments of this attempt and of no other. -/
theorem Verdict.fixChunks_block (j : Nat) (v : Verdict) (i n : Nat) (cs : List String) :
    fixChunks j (v.block i n cs) = if i = j then cs else [] := by
  have ha : Event.fixChunk? j (v.attemptEvent i n) = none := rfl
  have hc : Event.fixChunk? j ∘ fixChunk i n = fun c => if i = j then some c else none := rfl
  have hv : Event.fixChunk? j (validatingEvent i n) = none := rfl
  rw [fixChunks, block_eq, List.filterMap_cons_none ha, List.filterMap_append, List.filterMap_map, hc]
  rw [List.filterMap_cons_none hv]
  by_cases hj : i = j
  · simp [hj]
  · simp [hj]

/-- An event that passes on no text and announces no attempt. -/
structure Event.IsMute (e : Event) : Prop where
  chunk : ∀ s : Stage, s.chunk? e = none
  attempt : e.attempt? = none
  fixChunk : ∀ i, e.fixChunk? i = none

theorem isMute_fixingEvent (v : Verdict) : v.fixingEvent.IsMute :=
  ⟨fun s => by cases s <;> rfl, rfl, fun _ => rfl⟩

theorem isMute_fixedEvent : fixedEvent.IsMute :=
  ⟨fun s => by cases s <;> rfl, rfl, fun _ => rfl⟩

theorem isMute_startedEvent : Run.startedEvent.IsMute :=
  ⟨fun s => by cases s <;> rfl, rfl, fun _ => rfl⟩

theorem isMute_complete (d e m : String) : (Event.complete d e m).IsMute :=
  ⟨fun s => by cases s <;> rfl, rfl, fun _ => rfl⟩

section

variable {a b : Event} (ha : a.IsMute) (hb : b.IsMute) (events : List Event)

include ha hb

theorem Stage.chunks_mute (s : Stage) : s.chunks (a :: (events ++ [b])) = s.chunks events := by
  rw [chunks, List.filterMap_cons_none (ha.chunk s), List.filterMap_append,
    List.filterMap_cons_none (hb.chunk s)]
  exact List.append_nil _

theorem attempts_mute : attempts (a :: (events ++ [b])) = attempts events := by
  rw [attempts, List.filterMap_cons_none ha.attempt, List.filterMap_append,
    List.filterMap_cons_none hb.attempt]
  exact List.append_nil _

theorem fixChunks_mute (i : Nat) : fixChunks i (a :: (events ++ [b])) = fixChunks i events := by
  rw [fixChunks, List.filterMap_cons_none (ha.fixChunk i), List.filterMap_append,
    List.filterMap_cons_none (hb.fixChunk i)]
  exact List.append_nil _

theorem draft_mute : draft (a :: (events ++ [b])) = draft events := by
  simp only [draft, attempts_mute ha hb, fixChunks_mute ha hb, Stage.chunks_mute ha hb]

end

/-! ## Repairs -/

def Rejects (c : String × Answer Empty Verdict) : Prop :=
  ∃ v : Verdict, c.2 = .ok v ∧ v.valid = false

/-- The last check is one of `d` and gives the verdict `v`, and every check before it rejects. -/
def EndsWith (d : String) (v : Verdict) (cs : List (String × Answer Empty Verdict)) : Prop :=
  ∃ front, cs = front ++ [(d, .ok v)] ∧ ∀ c ∈ front, Rejects c

theorem EndsWith.append {d : String} {v : Verdict} {front cs : List (String × Answer Empty Verdict)}
    (hf : ∀ c ∈ front, Rejects c) (h : EndsWith d v cs) : EndsWith d v (front ++ cs) := by
  obtain ⟨more, rfl, hm⟩ := h
  refine ⟨front ++ more, by rw [List.append_assoc], ?_⟩
  intro c hc
  exact (List.mem_append.mp hc).elim (hf c) (hm c)

namespace Run

variable {σ : Type} {p : Setting σ} {apiKey : Option String} {f : Findings}

/-- Attempts pass on nothing of a stage, and ask for no snapshot. -/
theorem Repairing.plain {i left : Nat} {diagram : String} {v : Verdict} {steps : List Step}
    {d : String × Verdict} (h : Repairing p apiKey f i diagram v left steps (.ok d)) :
    (∀ s : Stage, s.chunks (emitted steps) = []) ∧ snapshots steps = [] := by
  generalize ho : Except.ok d = out at h
  induction h with
  | rest _ => exact ⟨fun _ => rfl, rfl⟩
  | halted _ _ => cases ho
  | next _ hr _ ih =>
    obtain ⟨hs, -, cs, hcs, -⟩ := hr.emitted_eq
    obtain ⟨hchunks, hsnapshots⟩ := ih ho
    refine ⟨fun s => ?_, ?_⟩
    · rw [emitted_append, Stage.chunks_append, hcs, Verdict.chunks_block, hchunks]
      rfl
    · rw [snapshots_append, hs, hsnapshots]
      rfl

/-- What is left after some attempts is the diagram as it was, if there were none, or the text of
the highest one.  It is what was checked last, and what was checked before was rejected. -/
theorem Repairing.drafts {i left : Nat} {diagram : String} {v : Verdict} {steps : List Step}
    {d : String × Verdict} (h : Repairing p apiKey f i diagram v left steps (.ok d)) :
    steps = [] ∧ d = (diagram, v) ∨ v.valid = false ∧
      (∃ k, i ≤ k ∧ (attempts (emitted steps)).max? = some k ∧
        Diagram.stripFences (String.join (fixChunks k (emitted steps))) = d.1) ∧
      EndsWith d.1 d.2 (checks steps) := by
  generalize ho : Except.ok d = out at h
  induction h with
  | rest _ =>
    cases ho
    exact Or.inl ⟨rfl, rfl⟩
  | halted _ _ => cases ho
  | @next i diagram v left steps more d' out hv hr hm ih =>
    refine Or.inr ⟨hv, ?_⟩
    obtain ⟨-, hj, cs, hcs, hd⟩ := hr.emitted_eq
    rw [emitted_append, checks_append, attempts_append, hcs, hj, Verdict.attempts_block]
    rcases ih ho with ⟨rfl, rfl⟩ | ⟨hv', ⟨k, hk, hmax, hd'⟩, hends⟩
    · refine ⟨⟨i, Nat.le_refl i, rfl, ?_⟩, [], rfl, by simp⟩
      rw [fixChunks_append, Verdict.fixChunks_block, if_pos rfl, emitted_nil, fixChunks_nil,
        List.append_nil, hd]
    · refine ⟨⟨k, by omega, ?_, ?_⟩, hends.append ?_⟩
      · rw [List.singleton_append, List.max?_cons, hmax]
        simp
        omega
      · rw [fixChunks_append, Verdict.fixChunks_block, if_neg (by omega), List.nil_append, hd']
      · simpa [Rejects] using hv'

/-- A diagram that is made valid is the one it was, or the text of the highest attempt, and it was
accepted by the last check, the only one to accept. -/
structure Settled (diagram valid : String) (steps : List Step) : Prop where
  chunks : ∀ s : Stage, s.chunks (emitted steps) = []
  snapshots : snapshots steps = []
  text : attempts (emitted steps) = [] ∧ valid = diagram ∨
    ∃ k, (attempts (emitted steps)).max? = some k ∧
      Diagram.stripFences (String.join (fixChunks k (emitted steps))) = valid
  checks : ∃ v : Verdict, v.valid = true ∧ EndsWith valid v (checks steps)

theorem Ensuring.settled {diagram valid : String} {steps : List Step}
    (h : Ensuring p apiKey f diagram steps (.ok valid)) : Settled diagram valid steps := by
  cases h with
  | @accepted v hv => exact ⟨fun _ => rfl, rfl, Or.inl ⟨rfl, rfl⟩, v, hv, [], rfl, by simp⟩
  | @repaired v steps d hv hr hd =>
    obtain ⟨hchunks, hsnapshots⟩ := hr.plain
    rcases hr.drafts with ⟨-, rfl⟩ | ⟨-, ⟨k, -, hmax, htext⟩, hends⟩
    · rw [hv] at hd
      cases hd
    · have hevents : emitted (.check diagram (.ok v) :: .emit v.fixingEvent ::
          (steps ++ [.emit fixedEvent])) = v.fixingEvent :: (emitted steps ++ [fixedEvent]) := by
        simp
      have hv' := isMute_fixingEvent v
      have hf := isMute_fixedEvent
      refine ⟨fun s => ?_, ?_, Or.inr ⟨k, ?_, ?_⟩, d.2, hd, ?_⟩
      · rw [hevents, Stage.chunks_mute hv' hf, hchunks]
      · rw [snapshots_check, snapshots_emit, snapshots_append, hsnapshots]
        rfl
      · rw [hevents, attempts_mute hv' hf, hmax]
      · rw [hevents, fixChunks_mute hv' hf, htext]
      · rw [checks_check, checks_emit, checks_append]
        -- The first check rejects, the others are those of the attempts.
        have hfirst : ∀ c ∈ [(diagram, (.ok v : Answer Empty Verdict))], Rejects c := by
          simpa [Rejects] using hv
        simpa [checks] using hends.append hfirst

end Run

/-! ## Whole runs -/

/-- The diagram `d`, the explanation `e` and the mapping `m` are what the steps of a run come to. -/
structure Delivered (r : DiagramRequest) (steps : List Step) (d e m : String) : Prop where
  explanation : e = String.join (Stage.explanation.chunks (emitted steps))
  mapping : m = Diagram.mappingOf (String.join (Stage.mapping.chunks (emitted steps)))
  /-- The draft is linked to the repository that was fetched. -/
  diagram : ∃ s : Snapshot, snapshots steps = [.ok s] ∧
    d = Diagram.linkPaths ⟨r.owner, r.repo, s.branch⟩ (Diagram.stripFences (draft (emitted steps)))
  /-- The draft was checked last, and of all checks the last one accepts. -/
  accepted : ∃ v : Verdict, v.valid = true ∧
    EndsWith (Diagram.stripFences (draft (emitted steps))) v (checks steps)

namespace Run

variable {σ : Type} {p : Setting σ} {r : DiagramRequest}

/-- The blocks of the stages and the attempts after them determine the texts. -/
theorem draft_blocks (model : String) (ce cm cd : List String) {events : List Event}
    (hc : ∀ s : Stage, s.chunks events = []) :
    let all := Stage.explanation.block model ce ++ (Stage.mapping.block model cm ++
      (Stage.diagram.block model cd ++ events))
    Stage.explanation.chunks all = ce ∧ Stage.mapping.chunks all = cm ∧
      draft all = match (attempts events).max? with
        | none => String.join cd
        | some i => String.join (fixChunks i events) := by
  refine ⟨?_, ?_, ?_⟩
  · simp [Stage.chunks_block, hc]
  · simp [Stage.chunks_block, hc]
  · simp [draft, Stage.chunks_block, hc]

theorem Making.delivers {s : Snapshot} {steps : List Step} {d e m : String}
    (h : Making p r s steps (.ok (.complete d e m))) :
    e = String.join (Stage.explanation.chunks (emitted steps)) ∧
      m = Diagram.mappingOf (String.join (Stage.mapping.chunks (emitted steps))) ∧
      snapshots steps = [] ∧
      ∃ valid, d = Diagram.linkPaths ⟨r.owner, r.repo, s.branch⟩ valid ∧
        Diagram.stripFences (draft (emitted steps)) = valid ∧
        ∃ v : Verdict, v.valid = true ∧ EndsWith valid v (checks steps) := by
  generalize ho : Except.ok (Event.complete d e m) = out at h
  cases h with
  | @complete a b c x explanation answer drawing valid ha hb hc hx =>
    cases ho
    obtain ⟨ce, hce, hje⟩ := ha.emitted_eq (by simp)
    obtain ⟨cm, hcm, hjm⟩ := hb.emitted_eq (by simp)
    obtain ⟨cd, hcd, hjd⟩ := hc.emitted_eq (by simp)
    obtain ⟨hchunks, hsnapshots, htext, hends⟩ := hx.settled
    have hevents : emitted (a ++ (b ++ (c ++ x))) = Stage.explanation.block p.model ce ++
        (Stage.mapping.block p.model cm ++ (Stage.diagram.block p.model cd ++ emitted x)) := by
      simp only [emitted_append, hce, hcm, hcd]
    obtain ⟨he, hm, hd⟩ := draft_blocks p.model ce cm cd hchunks
    rw [hevents, he, hm, hd, hje _ rfl, hjm _ rfl, hjd _ rfl]
    refine ⟨rfl, rfl, ?_, valid, rfl, ?_, ?_⟩
    · simp only [snapshots_append, ha.answers_eq, hb.answers_eq, hc.answers_eq, hsnapshots,
        List.append_nil]
    · rcases htext with ⟨hno, rfl⟩ | ⟨k, hmax, hk⟩
      · rw [hno]
        rfl
      · rw [hmax, ← hk]
    · simpa only [checks_append, ha.answers_eq, hb.answers_eq, hc.answers_eq, List.nil_append]
        using hends
  | _ => cases ho

/-- What a run that is not turned away comes to. -/
theorem Drawing.delivers {steps : List Step} {d e m : String}
    (h : Drawing p r steps (.ok (.complete d e m))) :
    Delivered r (steps ++ [.emit (.complete d e m)]) d e m := by
  cases h with
  | @passed s mm steps n out hm hg hs =>
    obtain ⟨he, hmap, hsnapshots, valid, hd, hdraft, v, hv, hends⟩ := hs.delivers
    obtain ⟨hmsnapshots, hmchecks⟩ := hm.answers_eq
    have hfirst := isMute_startedEvent
    have hlast := isMute_complete d e m
    have hevents : emitted (.fetch r.owner r.repo r.hostToken (.ok s) ::
        (mm ++ .emit startedEvent :: steps) ++ [.emit (.complete d e m)]) =
          startedEvent :: (emitted steps ++ [.complete d e m]) := by
      simp [hm.emitted_eq]
    have hsnaps : snapshots (.fetch r.owner r.repo r.hostToken (.ok s) ::
        (mm ++ .emit startedEvent :: steps) ++ [.emit (.complete d e m)]) = [.ok s] := by
      rw [snapshots_append, snapshots_fetch, snapshots_append, hmsnapshots, snapshots_emit,
        hsnapshots]
      rfl
    have hchecks : checks (.fetch r.owner r.repo r.hostToken (.ok s) ::
        (mm ++ .emit startedEvent :: steps) ++ [.emit (.complete d e m)]) = checks steps := by
      rw [checks_append, checks_fetch, checks_append, hmchecks, checks_emit]
      exact List.append_nil _
    constructor
    · rw [hevents, Stage.chunks_mute hfirst hlast, he]
    · rw [hevents, Stage.chunks_mute hfirst hlast, hmap]
    · refine ⟨s, hsnaps, ?_⟩
      rw [hevents, draft_mute hfirst hlast, hdraft, hd]
    · refine ⟨v, hv, ?_⟩
      rw [hevents, draft_mute hfirst hlast, hdraft, hchecks]
      exact hends

end Run

/-- An outcome is reported by a finished diagram only if it is one. -/
theorem eq_ok_of_terminalEvent {out : Except Halt Event} {d e m : String}
    (h : terminalEvent? out = some (.complete d e m)) : out = .ok (.complete d e m) := by
  rcases out with (f | _ | _) | e'
  · simp only [terminalEvent?, Failure.event?] at h
    split at h <;> cases h
  · cases h
  · cases h
  · cases h
    rfl

section

variable {σ : Type} {p : Setting σ} {l : Listener} {r : DiagramRequest} {steps all : List Step}
  {out : Except Halt Event}

/-- A terminal event that a run emits is the one it comes out with, and the last step. -/
theorem Executed.terminalEvent_eq (h : Executed p l r steps out all) {e : Event}
    (he : e ∈ emitted all) (ht : e.isTerminal = true) :
    terminalEvent? out = some e ∧ all = steps ++ [.emit e] := by
  have hall := h.all_eq
  rw [hall, emitted_append, List.mem_append] at he
  rcases he with he | he
  · -- None of the steps before the end is terminal.
    obtain ⟨s, hs, hse⟩ := List.mem_filterMap.mp he
    have hq := h.quiet s hs
    rw [Step.isTerminal, hse] at hq
    exact absurd ht (by simpa using hq)
  · cases hout : terminalEvent? out with
    | none =>
      rw [closing, hout] at he
      cases he
    | some e' =>
      rw [closing, hout] at he hall
      dsimp only at he hall
      split at he
      · rename_i hl
        rw [emitted_emit, emitted_nil, List.mem_singleton] at he
        subst he
        rw [if_pos hl] at hall
        exact ⟨rfl, hall⟩
      · cases he

theorem Executed.outcome_eq (h : Executed p l r steps out all) {d e m : String}
    (hm : .complete d e m ∈ emitted all) :
    out = .ok (.complete d e m) ∧ all = steps ++ [.emit (.complete d e m)] := by
  obtain ⟨ht, hall⟩ := h.terminalEvent_eq hm rfl
  exact ⟨eq_ok_of_terminalEvent ht, hall⟩

end

/-- **Every run that ends with a diagram delivers what was streamed and checked**, whoever listens
and whatever the collaborators answer. -/
theorem execute_delivers {σ : Type} (p : Setting σ) (l : Listener) (r : DiagramRequest) (s : σ)
    {d e m : String}
    (h : .complete d e m ∈ emitted (execute p l r ⟨s, []⟩).history.reverse) :
    Delivered r (execute p l r ⟨s, []⟩).history.reverse d e m := by
  obtain ⟨steps, out, hx⟩ := executed p l r s
  obtain ⟨rfl, hall⟩ := hx.outcome_eq h
  rw [hall]
  exact hx.course.delivers

theorem execute_delivers_repaired :
    let script : Rehearsal := ⟨.ok ⟨"main", "a.py", "b"⟩, .ok 10,
      [.ok ⟨["one"], .finished⟩, .ok ⟨["two", "", " three"], .finished⟩, .ok ⟨["graph"], .finished⟩,
        .ok ⟨["flow", "chart"], .finished⟩], [.ok (.rejected "no such shape")]⟩
    let p : Setting Rehearsal := ⟨Rehearsal.team, .standard, "o4-mini", ⟨0⟩, 2⟩
    let r : DiagramRequest := ⟨"octo", "demo", none, none⟩
    let steps := (execute p .loyal r ⟨script, []⟩).history.reverse
    .complete "flowchart" "one" "two three" ∈ emitted steps ∧
      Delivered r steps "flowchart" "one" "two three" := by
  intro script p r steps
  have h : .complete "flowchart" "one" "two three" ∈ emitted steps := by decide +kernel
  exact ⟨h, execute_delivers p .loyal r script h⟩

end ArchDiagram
