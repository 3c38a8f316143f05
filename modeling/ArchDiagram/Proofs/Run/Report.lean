import ArchDiagram.Proofs.Run.Pipeline
import ArchDiagram.Proofs.Run.View
import ArchDiagram.Run.Rehearsal

/-!
# What a run reports

The events of a run whose listener stays are sentences of a small grammar.  A run that cannot read
its repository reports an error and nothing else.  Any other says that it has started, reports each
stage as a block (`Stage.block`), then what comes of the diagram (`DiagramReport`) and of the rounds
of its repair (`RepairReport`).  An error may end it after the start, inside a block once that has
announced itself, and instead of every later word but one: a repair that is begun with attempts left
has its first round.

* `Report`: the sentences.
* `Report.endsOnce`: a sentence has one terminal event, its last one.
* `Run.Drawing.report`: the events of a course are a sentence.
* `Run.Drawing.stalls`: a run waits forever only for a text without an end.
* `execute_report`: **every run reports a sentence**.
-/

namespace ArchDiagram

/-! ## Terminal events -/

def Event.isError : Event → Bool
  | error .. => true
  | _ => false

def Event.isComplete : Event → Bool
  | complete .. => true
  | _ => false

theorem Event.isTerminal_of_isError {e : Event} (he : e.isError = true) : e.isTerminal = true := by
  cases e with
  | error _ _ _ => rfl
  | _ => cases he

theorem Event.isTerminal_of_isComplete {e : Event} (he : e.isComplete = true) :
    e.isTerminal = true := by
  cases e with
  | complete _ _ _ => rfl
  | _ => cases he

/-- There is one terminal event, the last one. -/
def EndsOnce (events : List Event) : Prop :=
  ∃ front last, events = front ++ [last] ∧ last.isTerminal = true ∧
    ∀ e ∈ front, e.isTerminal = false

theorem endsOnce_singleton {e : Event} (he : e.isTerminal = true) : EndsOnce [e] :=
  ⟨[], e, rfl, he, by simp⟩

theorem EndsOnce.append {front rest : List Event} (hr : EndsOnce rest)
    (hf : ∀ e ∈ front, e.isTerminal = false) : EndsOnce (front ++ rest) := by
  obtain ⟨more, last, rfl, hl, hm⟩ := hr
  refine ⟨front ++ more, last, by rw [List.append_assoc], hl, ?_⟩
  intro e he
  exact (List.mem_append.mp he).elim (hf e) (hm e)

theorem EndsOnce.cons {e : Event} {rest : List Event} (hr : EndsOnce rest)
    (he : e.isTerminal = false) : EndsOnce (e :: rest) := by
  rw [← List.singleton_append]
  exact hr.append (by simpa using he)

/-! ## The grammar -/

/-- What is reported of a repair with at most `n` attempts when `i` is the next one: rounds, each an
attempt, its text and the check of what it made, and at the end that the diagram is fixed or an
error. -/
inductive RepairReport (n : Nat) : Nat → List Event → Prop
  | fixed {i : Nat} {message : String} {e : Event} : 1 < i → e.isComplete = true →
      RepairReport n i [.diagramFixing message none, e]
  | failed {i : Nat} {e : Event} : 1 < i ∨ n < i → e.isError = true → RepairReport n i [e]
  | cut {i : Nat} {message feedback : String} {cs : List String} {e : Event} : i ≤ n →
      e.isError = true →
      RepairReport n i (.diagramFixAttempt message i n feedback ::
        (cs.map (fun c => .diagramFixChunk c i n) ++ [e]))
  | round {i : Nat} {message feedback message' : String} {cs : List String} {rest : List Event} :
      i ≤ n → RepairReport n (i + 1) rest →
      RepairReport n i (.diagramFixAttempt message i n feedback ::
        (cs.map (fun c => .diagramFixChunk c i n) ++ .diagramFixValidating message' i n :: rest))

/-- What is reported once a diagram is drawn. -/
inductive DiagramReport (n : Nat) : List Event → Prop
  | complete {e : Event} : e.isComplete = true → DiagramReport n [e]
  | failed {e : Event} : e.isError = true → DiagramReport n [e]
  | fixing {message feedback : String} {rest : List Event} : RepairReport n 1 rest →
      DiagramReport n (.diagramFixing message (some feedback) :: rest)

inductive StageReport (model : String) (n : Nat) : List Stage → List Event → Prop
  | cut {s : Stage} {ss : List Stage} (cs : List String) {e : Event} : e.isError = true →
      StageReport model n (s :: ss) (s.block model cs ++ [e])
  | block {s : Stage} {ss : List Stage} (cs : List String) {rest : List Event} :
      StageReport model n ss rest → StageReport model n (s :: ss) (s.block model cs ++ rest)
  | drawn {rest : List Event} : DiagramReport n rest → StageReport model n [] rest

/-- What is reported of a run that asks the model `model` and makes at most `n` attempts to repair a
diagram. -/
inductive Report (model : String) (n : Nat) : List Event → Prop
  | failed {e : Event} : e.isError = true → Report model n [e]
  | turnedAway {message : String} {e : Event} : e.isError = true →
      Report model n [.started message, e]
  | started {message : String} {rest : List Event} :
      StageReport model n [.explanation, .mapping, .diagram] rest →
      Report model n (.started message :: rest)

theorem Stage.isTerminal_block (s : Stage) (model : String) (cs : List String) :
    ∀ e ∈ s.block model cs, e.isTerminal = false := by
  intro e he
  simp only [Stage.block_eq, List.mem_cons, List.mem_map] at he
  rcases he with rfl | rfl | ⟨c, -, rfl⟩ <;> simp

theorem isTerminal_fixChunks (i n : Nat) (cs : List String) :
    ∀ e ∈ cs.map (fixChunk i n), e.isTerminal = false := by
  intro e he
  obtain ⟨c, -, rfl⟩ := List.mem_map.mp he
  rfl

theorem RepairReport.endsOnce {n i : Nat} {events : List Event} (h : RepairReport n i events) :
    EndsOnce events := by
  induction h with
  | fixed _ he => exact (endsOnce_singleton (Event.isTerminal_of_isComplete he)).cons rfl
  | failed _ he => exact endsOnce_singleton (Event.isTerminal_of_isError he)
  | cut _ he =>
    exact ((endsOnce_singleton (Event.isTerminal_of_isError he)).append
      (isTerminal_fixChunks _ _ _)).cons rfl
  | round _ _ ih => exact ((ih.cons rfl).append (isTerminal_fixChunks _ _ _)).cons rfl

theorem DiagramReport.endsOnce {n : Nat} {events : List Event} (h : DiagramReport n events) :
    EndsOnce events := by
  cases h with
  | complete he => exact endsOnce_singleton (Event.isTerminal_of_isComplete he)
  | failed he => exact endsOnce_singleton (Event.isTerminal_of_isError he)
  | fixing hr => exact hr.endsOnce.cons rfl

theorem StageReport.endsOnce {model : String} {n : Nat} {ss : List Stage} {events : List Event}
    (h : StageReport model n ss events) : EndsOnce events := by
  induction h with
  | cut cs he =>
    exact (endsOnce_singleton (Event.isTerminal_of_isError he)).append
      (Stage.isTerminal_block _ _ _)
  | block cs _ ih => exact ih.append (Stage.isTerminal_block _ _ _)
  | drawn hd => exact hd.endsOnce

/-- **A sentence has one terminal event, its last one.** -/
theorem Report.endsOnce {model : String} {n : Nat} {events : List Event}
    (h : Report model n events) : EndsOnce events := by
  cases h with
  | failed he => exact endsOnce_singleton (Event.isTerminal_of_isError he)
  | turnedAway he => exact (endsOnce_singleton (Event.isTerminal_of_isError he)).cons rfl
  | started hs => exact hs.endsOnce.cons rfl

/-! ## Courses are sentences -/

/-- The event `e` ends a computation that comes out like this. -/
def Closes {α : Type} (e : Event) : Except Halt α → Prop
  | .ok _ => e.isComplete = true
  | .error h => h ≠ .failed .disconnected ∧ e.isError = true

variable {σ : Type} {p : Setting σ}

namespace Run

variable {apiKey : Option String} {f : Findings}

/-- A round that is judged is reported as a round, and what follows it is up to what follows. -/
theorem Round.report {i : Nat} {diagram : String} {v : Verdict} {steps : List Step}
    {d : String × Verdict} (h : Round p apiKey f i diagram v steps (.ok d))
    (hi : i ≤ p.maxRepairs) {rest : List Event} (hr : RepairReport p.maxRepairs (i + 1) rest) :
    RepairReport p.maxRepairs i (emitted steps ++ rest) := by
  obtain ⟨-, -, cs, hcs, -⟩ := h.emitted_eq
  rw [hcs, Verdict.block, List.cons_append, List.append_assoc]
  exact .round hi hr

/-- A round that halts is the last one. -/
theorem Round.report_halted {i : Nat} {diagram : String} {v : Verdict} {steps : List Step}
    {h : Halt} (hr : Round p apiKey f i diagram v steps (.error h)) (h0 : 0 < i)
    (hi : i ≤ p.maxRepairs) {e : Event} (he : Closes e (.error h : Except Halt String)) :
    RepairReport p.maxRepairs i (emitted steps ++ [e]) := by
  cases hr with
  | unchecked hm hs =>
    obtain ⟨cs, hcs, -⟩ := hm.emitted_eq (by simp)
    have hlast : RepairReport p.maxRepairs (i + 1) [e] := .failed (Or.inl (by omega)) he.2
    simp only [emitted_emit, emitted_append, emitted_check, emitted_nil, hcs, List.cons_append,
      List.append_assoc, List.nil_append]
    exact .round hi hlast
  | unmended hm =>
    obtain ⟨cs, hcs, -⟩ := hm.emitted_eq (by simpa using he.1)
    rw [emitted_emit, hcs]
    exact .cut hi he.2
  | unheard => exact absurd rfl he.1
  | unheardAfter _ => exact absurd rfl he.1

/-- A repair with `left` attempts left is reported as rounds.  It is then at the attempt `j`: past
all of them if the diagram is still rejected, and past the first one if it was rejected before. -/
theorem Repairing.report {i left : Nat} {diagram : String} {v : Verdict} {steps : List Step}
    {d : String × Verdict} (h : Repairing p apiKey f i diagram v left steps (.ok d))
    (hi : i + left = p.maxRepairs + 1) :
    ∃ j, i ≤ j ∧ (d.2.valid = false → p.maxRepairs < j) ∧
      (v.valid = false → d.2.valid = true → i < j) ∧
      ∀ rest, RepairReport p.maxRepairs j rest →
        RepairReport p.maxRepairs i (emitted steps ++ rest) := by
  generalize ho : Except.ok d = out at h
  induction h with
  | @rest i diagram v left hv =>
    cases ho
    refine ⟨i, Nat.le_refl i, ?_, ?_, fun rest hr => hr⟩
    · intro hd
      rcases hv with hv | rfl
      · rw [hd] at hv; cases hv
      · omega
    · intro hv' hd
      rw [hv'] at hd; cases hd
  | halted _ _ => cases ho
  | @next i diagram v left steps more d' out hv hr _ ih =>
    obtain ⟨j, hij, hj, -, hrest⟩ := ih (by omega) ho
    refine ⟨j, by omega, hj, fun _ _ => by omega, ?_⟩
    intro rest hs
    rw [emitted_append, List.append_assoc]
    exact hr.report (by omega) (hrest rest hs)

theorem Repairing.report_halted {i left : Nat} {diagram : String} {v : Verdict} {steps : List Step}
    {h : Halt} (hs : Repairing p apiKey f i diagram v left steps (.error h)) (h0 : 0 < i)
    (hi : i + left = p.maxRepairs + 1) {e : Event}
    (he : Closes e (.error h : Except Halt String)) :
    RepairReport p.maxRepairs i (emitted steps ++ [e]) := by
  generalize ho : Except.error h = out at hs
  induction hs with
  | rest _ => cases ho
  | halted _ hr =>
    cases ho
    exact hr.report_halted h0 (by omega) he
  | next _ hr _ ih =>
    rw [emitted_append, List.append_assoc]
    exact hr.report (by omega) (ih (by omega) (by omega) ho)

theorem Ensuring.report {diagram : String} {steps : List Step} {out : Except Halt String}
    (h : Ensuring p apiKey f diagram steps out) {e : Event} (he : Closes e out) :
    DiagramReport p.maxRepairs (emitted steps ++ [e]) := by
  cases h with
  | unchecked => exact .failed he.2
  | accepted _ => exact .complete he
  | unheard _ => exact absurd rfl he.1
  | halted _ hr => exact .fixing (hr.report_halted Nat.one_pos (by omega) he)
  | unresolved _ hr hd =>
    obtain ⟨j, -, hj, -, hrest⟩ := hr.report (by omega)
    exact .fixing (hrest _ (.failed (Or.inr (hj hd)) he.2))
  | unheardAfter _ _ _ => exact absurd rfl he.1
  | @repaired v steps d hv hr hd =>
    obtain ⟨j, -, -, hj, hrest⟩ := hr.report (by omega)
    have hlast : RepairReport p.maxRepairs j [fixedEvent, e] := .fixed (hj hv hd) he
    rw [emitted_check, emitted_emit, emitted_append, List.cons_append, List.append_assoc]
    exact .fixing (hrest _ hlast)

variable {r : DiagramRequest}

theorem Staging.report_halted {s : Stage} {ss : List Stage} {sections : List Section}
    {steps : List Step} {h : Halt} (hs : Staging p s sections apiKey steps (.error h)) {e : Event}
    (he : Closes e (.error h : Except Halt Event)) :
    StageReport p.model p.maxRepairs (s :: ss) (emitted steps ++ [e]) := by
  obtain ⟨cs, hcs, -⟩ := hs.emitted_eq (by simpa using he.1)
  rw [hcs]
  exact .cut cs he.2

/-- A stage that is done is reported before the stages that are left. -/
theorem Staging.report {s : Stage} {ss : List Stage} {sections : List Section} {steps : List Step}
    {text : String} (hs : Staging p s sections apiKey steps (.ok text)) {rest : List Event}
    (hr : StageReport p.model p.maxRepairs ss rest) :
    StageReport p.model p.maxRepairs (s :: ss) (emitted steps ++ rest) := by
  obtain ⟨cs, hcs, -⟩ := hs.emitted_eq (by simp)
  rw [hcs]
  exact .block cs hr

theorem Making.report {s : Snapshot} {steps : List Step} {out : Except Halt Event}
    (h : Making p r s steps out) {e : Event} (he : Closes e out) :
    StageReport p.model p.maxRepairs [.explanation, .mapping, .diagram] (emitted steps ++ [e]) := by
  cases h with
  | unexplained ha => exact ha.report_halted he
  | unmapped ha hb =>
    rw [emitted_append, List.append_assoc]
    exact ha.report (hb.report_halted he)
  | undrawn ha hb hc =>
    simp only [emitted_append, List.append_assoc]
    exact ha.report (hb.report (hc.report_halted he))
  | invalid ha hb hc hd =>
    simp only [emitted_append, List.append_assoc]
    exact ha.report (hb.report (hc.report (.drawn (hd.report he))))
  | complete ha hb hc hd =>
    simp only [emitted_append, List.append_assoc]
    exact ha.report (hb.report (hc.report (.drawn (hd.report he))))

/-- **The events of a course and the event that ends it are a sentence.** -/
theorem Drawing.report {steps : List Step} {out : Except Halt Event} (h : Drawing p r steps out)
    {e : Event} (he : Closes e out) : Report p.model p.maxRepairs (emitted steps ++ [e]) := by
  cases h with
  | unfetched _ => exact .failed he.2
  | unmeasured hm =>
    rw [emitted_fetch, hm.emitted_eq]
    exact .failed he.2
  | unheard _ => exact absurd rfl he.1
  | rejected hm _ =>
    rw [emitted_fetch, emitted_append, hm.emitted_eq]
    exact .turnedAway he.2
  | passed hm _ hs =>
    rw [emitted_fetch, emitted_append, hm.emitted_eq]
    exact .started (hs.report he)

end Run

/-! ## Waiting forever -/

def Step.isEndless : Step → Bool
  | .generate _ (.ok x) => decide (x.ending = .stalled)
  | _ => false

/-- A text without an end was opened. -/
def Stalls (steps : List Step) : Prop :=
  ∃ s ∈ steps, s.isEndless = true

theorem Stalls.mono {a b : List Step} (h : Stalls a) (hab : a ⊆ b) : Stalls b := by
  obtain ⟨s, hs, he⟩ := h
  exact ⟨s, hab hs, he⟩

namespace Run

/-- Only a text without an end is waited for forever. -/
theorem Generating.stalls {r : TextRequest} {event : String → Event} {steps : List Step}
    (h : Generating r event steps (.error .stalled)) : Stalls steps := by
  cases h with
  | @unopened a _ ha => cases a <;> cases ha
  | @cut x _ hx =>
    refine ⟨_, List.mem_cons_self, ?_⟩
    cases he : x.ending <;> rw [he] at hx <;> cases hx
    simp [Step.isEndless, he]

theorem Staging.stalls {s : Stage} {sections : List Section} {steps : List Step}
    (h : Staging p s sections apiKey steps (.error .stalled)) : Stalls steps := by
  cases h with
  | opened hg => exact hg.stalls.mono (List.subset_append_right _ _)

theorem Round.stalls {i : Nat} {diagram : String} {v : Verdict} {steps : List Step}
    (h : Round p apiKey f i diagram v steps (.error .stalled)) : Stalls steps := by
  cases h with
  | unmended hm => exact hm.stalls.mono (List.subset_cons_self _ _)

theorem Repairing.stalls {i left : Nat} {diagram : String} {v : Verdict} {steps : List Step}
    (h : Repairing p apiKey f i diagram v left steps (.error .stalled)) : Stalls steps := by
  generalize ho : Except.error Halt.stalled = out at h
  induction h with
  | rest _ => cases ho
  | halted _ hr =>
    cases ho
    exact hr.stalls
  | next _ _ _ ih => exact (ih ho).mono (List.subset_append_right _ _)

theorem Ensuring.stalls {diagram : String} {steps : List Step}
    (h : Ensuring p apiKey f diagram steps (.error .stalled)) : Stalls steps := by
  cases h with
  | halted _ hr => exact hr.stalls.mono fun s hs => by simp [hs]

theorem Making.stalls {s : Snapshot} {steps : List Step}
    (h : Making p r s steps (.error .stalled)) : Stalls steps := by
  cases h with
  | unexplained ha => exact ha.stalls
  | unmapped _ hb => exact hb.stalls.mono fun s hs => by simp [hs]
  | undrawn _ _ hc => exact hc.stalls.mono fun s hs => by simp [hs]
  | invalid _ _ _ hd => exact hd.stalls.mono fun s hs => by simp [hs]

/-- **A course that waits forever waits for a text without an end.** -/
theorem Drawing.stalls {steps : List Step} (h : Drawing p r steps (.error .stalled)) :
    Stalls steps := by
  cases h with
  | @unfetched a _ ha => cases a <;> cases ha
  | unmeasured hm => cases hm
  | passed _ _ hm => exact hm.stalls.mono fun s hs => by simp [hs]

end Run

/-! ## Whole runs -/

/-- A course that comes to its end comes to a finished diagram. -/
theorem Run.Drawing.isComplete {p : Setting σ} {r : DiagramRequest} {steps : List Step} {e : Event}
    (h : Run.Drawing p r steps (.ok e)) : e.isComplete = true := by
  cases h with
  | passed _ _ hs =>
    cases hs
    rfl

/-- A course that is heard to its end and does not wait forever has an event that ends it. -/
theorem Run.Drawing.exists_terminalEvent {p : Setting σ} {r : DiagramRequest} {steps : List Step}
    {out : Except Halt Event} (h : Run.Drawing p r steps out)
    (ho : out ≠ .error (.failed .disconnected)) (hs : out ≠ .error .stalled) :
    ∃ e, terminalEvent? out = some e ∧ Closes e out := by
  rcases out with (f | _ | _) | e
  · have hf : f ≠ .disconnected := by simpa using ho
    exact ⟨_, if_neg hf, by simpa using hf, rfl⟩
  · exact ⟨_, rfl, by simp, rfl⟩
  · exact absurd rfl hs
  · exact ⟨e, rfl, h.isComplete⟩

/-- **Every run whose listener stays and whose texts all have an end reports a sentence, which has
one terminal event, the last one**, whatever the collaborators answer and wherever they fail. -/
theorem execute_report (p : Setting σ) (r : DiagramRequest) (s : σ)
    (hs : ∀ x ∈ (execute p .loyal r ⟨s, []⟩).history, x.isEndless = false) :
    Report p.model p.maxRepairs (emitted (execute p .loyal r ⟨s, []⟩).history.reverse) ∧
      EndsOnce (emitted (execute p .loyal r ⟨s, []⟩).history.reverse) := by
  obtain ⟨steps, out, hx⟩ := executed p .loyal r s
  have hsteps : ∀ x ∈ steps, x.isEndless = false := by
    intro x hmem
    refine hs x (List.mem_reverse.mp ?_)
    rw [hx.all_eq]
    exact List.mem_append_left _ hmem
  have hstalled : out ≠ .error .stalled := by
    rintro rfl
    obtain ⟨x, hmem, hendless⟩ := hx.course.stalls
    rw [hsteps x hmem] at hendless
    cases hendless
  obtain ⟨e, he, hc⟩ := hx.course.exists_terminalEvent (hx.heard rfl) hstalled
  have hr : Report p.model p.maxRepairs (emitted (execute p .loyal r ⟨s, []⟩).history.reverse) := by
    rw [hx.all_eq, closing_loyal he, emitted_append]
    exact hx.course.report hc
  exact ⟨hr, hr.endsOnce⟩

theorem execute_report_unchecked :
    let script : Rehearsal := ⟨.ok ⟨"main", "a.py", "b"⟩, .ok 10,
      [.ok ⟨["one"], .finished⟩, .ok ⟨["two", ""], .finished⟩, .ok ⟨["graph"], .finished⟩],
      [.ok (.rejected "no such shape"), .panic]⟩
    let p : Setting Rehearsal := ⟨Rehearsal.team, .standard, "o4-mini", ⟨0⟩, 2⟩
    let w := execute p .loyal ⟨"octo", "demo", none, none⟩ ⟨script, []⟩
    (∀ x ∈ w.history, x.isEndless = false) ∧ Report "o4-mini" 2 (emitted w.history.reverse) ∧
      EndsOnce (emitted w.history.reverse) := by
  intro script p w
  have hs : ∀ x ∈ w.history, x.isEndless = false := by decide +kernel
  exact ⟨hs, execute_report p _ script hs⟩

end ArchDiagram
