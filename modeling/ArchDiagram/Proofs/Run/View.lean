import ArchDiagram.Proofs.Run.Pipeline

/-!
# Views on the steps of a course

What `emitted`, `generated` and other views find among the steps that courses are made of.  Each
view is a filter, so that it goes through a list step by step; of a text that is passed on only the
events are seen, and of a pause nothing is.

* `snapshots`, `checks`: what was answered to a run.
* `Stage.block`, `Verdict.block`: a stage, and an attempt, as they are seen by their events.
-/

namespace ArchDiagram

variable {σ : Type}

/-! ## Events -/

@[simp] theorem emitted_nil : emitted [] = [] := rfl

@[simp] theorem emitted_emit (e : Event) (steps : List Step) :
    emitted (.emit e :: steps) = e :: emitted steps := rfl

@[simp] theorem emitted_fetch (o r : String) (c : Option String) (a : Answer SnapshotError Snapshot)
    (steps : List Step) : emitted (.fetch o r c a :: steps) = emitted steps := rfl

@[simp] theorem emitted_generate (r : TextRequest) (a : Answer ProviderError TextStream)
    (steps : List Step) : emitted (.generate r a :: steps) = emitted steps := rfl

@[simp] theorem emitted_check (d : String) (a : Answer Empty Verdict) (steps : List Step) :
    emitted (.check d a :: steps) = emitted steps := rfl

@[simp] theorem emitted_append (a b : List Step) : emitted (a ++ b) = emitted a ++ emitted b :=
  List.filterMap_append

theorem emitted_increments (event : String → Event) (cs : List String) :
    emitted (increments event cs) = (cs.filter (· ≠ "")).map event := by
  rw [emitted, increments, List.filterMap_map]
  exact congrFun (List.filterMap_eq_map (f := event)) _

@[simp] theorem emitted_pauses (d : Duration) : emitted (pauses d) = [] := by
  rw [pauses]
  split <;> rfl

@[simp] theorem emitted_opening (s : Stage) (p : Setting σ) :
    emitted (s.opening p) = [s.sentEvent p.model, s.progressEvent] := by
  simp [Stage.opening]

/-! ## Requests -/

theorem generated_append (a b : List Step) : generated (a ++ b) = generated a ++ generated b :=
  List.filterMap_append

@[simp] theorem generated_increments (event : String → Event) (cs : List String) :
    generated (increments event cs) = [] := by
  simp [generated, increments]

@[simp] theorem generated_opening (s : Stage) (p : Setting σ) : generated (s.opening p) = [] := by
  rw [Stage.opening, pauses]
  split <;> rfl

theorem generated_of_isPrefix {front steps : List Step} (h : front <+: steps)
    (hs : generated steps = []) : generated front = [] := by
  have hfront : generated front <+: generated steps := h.filterMap _
  rw [hs] at hfront
  exact List.prefix_nil.mp hfront

theorem generated_closing (l : Listener) (steps : List Step) (out : Except Halt Event) :
    generated (closing l steps out) = [] := by
  rw [closing]
  split
  · split <;> rfl
  · rfl

/-! ## Answers -/

def snapshots (steps : List Step) : List (Answer SnapshotError Snapshot) :=
  steps.filterMap fun
    | .fetch _ _ _ a => some a
    | _ => none

def checks (steps : List Step) : List (String × Answer Empty Verdict) :=
  steps.filterMap fun
    | .check d a => some (d, a)
    | _ => none

@[simp] theorem snapshots_append (a b : List Step) :
    snapshots (a ++ b) = snapshots a ++ snapshots b :=
  List.filterMap_append

@[simp] theorem snapshots_fetch (o r : String) (c : Option String)
    (a : Answer SnapshotError Snapshot) (steps : List Step) :
    snapshots (.fetch o r c a :: steps) = a :: snapshots steps := rfl

@[simp] theorem snapshots_emit (e : Event) (steps : List Step) :
    snapshots (.emit e :: steps) = snapshots steps := rfl

@[simp] theorem snapshots_check (d : String) (a : Answer Empty Verdict) (steps : List Step) :
    snapshots (.check d a :: steps) = snapshots steps := rfl

@[simp] theorem checks_append (a b : List Step) : checks (a ++ b) = checks a ++ checks b :=
  List.filterMap_append

@[simp] theorem checks_fetch (o r : String) (c : Option String)
    (a : Answer SnapshotError Snapshot) (steps : List Step) :
    checks (.fetch o r c a :: steps) = checks steps := rfl

@[simp] theorem checks_emit (e : Event) (steps : List Step) :
    checks (.emit e :: steps) = checks steps := rfl

@[simp] theorem checks_check (d : String) (a : Answer Empty Verdict) (steps : List Step) :
    checks (.check d a :: steps) = (d, a) :: checks steps := rfl

/-! ## Texts -/

/-- The empty increments that are left out add nothing to a text. -/
theorem join_filter_ne_empty (cs : List String) :
    String.join (cs.filter (· ≠ "")) = String.join cs := by
  induction cs with
  | nil => rfl
  | cons c cs ih =>
    by_cases hc : c = ""
    · rw [List.filter_cons_of_neg (by simpa using hc), String.join_cons, ih, hc,
        String.empty_append]
    · rw [List.filter_cons_of_pos (by simpa using hc), String.join_cons, String.join_cons, ih]

/-- The block of a stage: it announces itself, and its text is passed on. -/
def Stage.block (s : Stage) (model : String) (cs : List String) : List Event :=
  match s with
  | .explanation =>
    .explanationSent ("Sending explanation request to " ++ model ++ "...") ::
      .explanation "Analyzing repository structure..." :: cs.map .explanationChunk
  | .mapping =>
    .mappingSent ("Sending component mapping request to " ++ model ++ "...") ::
      .mapping "Creating component mapping..." :: cs.map .mappingChunk
  | .diagram =>
    .diagramSent ("Sending diagram generation request to " ++ model ++ "...") ::
      .diagram "Generating diagram..." :: cs.map .diagramChunk

theorem Stage.block_eq (s : Stage) (model : String) (cs : List String) :
    s.block model cs = s.sentEvent model :: s.progressEvent :: cs.map s.chunkEvent := by
  cases s <;> rfl

/-- The block of the attempt `i` of `n` to repair a diagram that got the verdict `v`: it announces
itself, its text is passed on, and what comes of it is checked. -/
def Verdict.block (v : Verdict) (i n : Nat) (cs : List String) : List Event :=
  .diagramFixAttempt ("Fixing Mermaid syntax (attempt " ++ (Decimal.text i ++ "/" ++
    Decimal.text n) ++ ")...") i n v.feedback ::
    (cs.map (fun c => .diagramFixChunk c i n) ++
      [.diagramFixValidating ("Validating Mermaid syntax after attempt " ++ (Decimal.text i ++ "/" ++
        Decimal.text n) ++ "...") i n])

theorem Verdict.block_eq (v : Verdict) (i n : Nat) (cs : List String) :
    v.block i n cs = v.attemptEvent i n :: (cs.map (fixChunk i n) ++ [validatingEvent i n]) := rfl

namespace Run

/-- A text that nobody leaves is seen as its increments, whether it comes to its end or not. -/
theorem Generating.emitted_eq {r : TextRequest} {event : String → Event} {steps : List Step}
    {out : Except Halt String} (h : Generating r event steps out)
    (ho : out ≠ .error (.failed .disconnected)) :
    ∃ cs : List String, emitted steps = cs.map event ∧
      ∀ text, out = .ok text → String.join cs = text := by
  cases h with
  | whole cs =>
    refine ⟨_, by rw [emitted_generate, emitted_increments], ?_⟩
    rintro text ⟨⟩
    exact join_filter_ne_empty cs
  | unopened _ => exact ⟨[], rfl, nofun⟩
  | cut _ => exact ⟨_, by rw [emitted_generate, emitted_increments], nofun⟩
  | unheard _ => exact absurd rfl ho

theorem Staging.emitted_eq {p : Setting σ} {s : Stage} {sections : List Section}
    {apiKey : Option String} {steps : List Step} {out : Except Halt String}
    (h : Staging p s sections apiKey steps out) (ho : out ≠ .error (.failed .disconnected)) :
    ∃ cs, emitted steps = s.block p.model cs ∧ ∀ text, out = .ok text → String.join cs = text := by
  cases h with
  | opened hg =>
    obtain ⟨cs, hcs, htext⟩ := hg.emitted_eq ho
    exact ⟨cs, by rw [emitted_append, emitted_opening, hcs, s.block_eq]; rfl, htext⟩
  | unheard _ => exact absurd rfl ho

theorem Generating.generated_eq {r : TextRequest} {event : String → Event} {steps : List Step}
    {out : Except Halt String} (h : Generating r event steps out) : generated steps = [r] := by
  cases h with
  | whole cs => exact congrArg (r :: ·) (generated_increments event cs)
  | unopened _ => rfl
  | @cut x _ _ => exact congrArg (r :: ·) (generated_increments event x.increments)
  | unheard hfront =>
    exact congrArg (r :: ·) (generated_of_isPrefix hfront (generated_increments event _))

/-- While a text is passed on neither a snapshot is asked for nor a verdict. -/
theorem Generating.answers_eq {r : TextRequest} {event : String → Event} {steps : List Step}
    {text : String} (h : Generating r event steps (.ok text)) :
    snapshots steps = [] ∧ checks steps = [] := by
  cases h with
  | whole cs => constructor <;> simp [snapshots, checks, increments]

theorem Staging.answers_eq {p : Setting σ} {s : Stage} {sections : List Section}
    {apiKey : Option String} {steps : List Step} {text : String}
    (h : Staging p s sections apiKey steps (.ok text)) :
    snapshots steps = [] ∧ checks steps = [] := by
  cases h with
  | opened hg =>
    obtain ⟨hs, hj⟩ := hg.answers_eq
    rw [snapshots_append, checks_append, hs, hj]
    constructor <;> simp only [Stage.opening, pauses] <;> split <;> rfl

/-- A round that is judged is seen as its block, and the diagram that comes of it is the one that is
checked. -/
theorem Round.emitted_eq {p : Setting σ} {apiKey : Option String} {f : Findings} {i : Nat}
    {diagram : String} {v : Verdict} {steps : List Step} {d : String × Verdict}
    (h : Round p apiKey f i diagram v steps (.ok d)) :
    snapshots steps = [] ∧ checks steps = [(d.1, .ok d.2)] ∧
      ∃ cs, emitted steps = v.block i p.maxRepairs cs ∧
        Diagram.stripFences (String.join cs) = d.1 := by
  cases h with
  | judged v' hm hs =>
    obtain ⟨cs, hcs, htext⟩ := hm.emitted_eq (by simp)
    refine ⟨?_, ?_, cs, ?_, ?_⟩
    · rw [snapshots_emit, snapshots_append, hm.answers_eq.1]
      rfl
    · rw [checks_emit, checks_append, hm.answers_eq.2]
      rfl
    · rw [emitted_emit, emitted_append, hcs]
      rfl
    · rw [htext _ rfl, hs]

theorem Measuring.emitted_eq {p : Setting σ} {s : Snapshot} {apiKey : Option String}
    {steps : List Step} {out : Except Halt Nat} (h : Measuring p s apiKey steps out) :
    emitted steps = [] := by
  cases h <;> rfl

theorem Measuring.generated_eq {p : Setting σ} {s : Snapshot} {apiKey : Option String}
    {steps : List Step} {out : Except Halt Nat} (h : Measuring p s apiKey steps out) :
    generated steps = [] := by
  cases h <;> rfl

theorem Measuring.answers_eq {p : Setting σ} {s : Snapshot} {apiKey : Option String}
    {steps : List Step} {out : Except Halt Nat} (h : Measuring p s apiKey steps out) :
    snapshots steps = [] ∧ checks steps = [] := by
  cases h <;> exact ⟨rfl, rfl⟩

end Run

end ArchDiagram
