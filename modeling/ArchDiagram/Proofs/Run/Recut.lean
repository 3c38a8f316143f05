import ArchDiagram.Proofs.Run.Occasion
import ArchDiagram.Proofs.Run.Parallel
import ArchDiagram.Proofs.Run.Pipeline
import ArchDiagram.Proofs.Run.View
import ArchDiagram.Run.Rehearsal
import Mathlib.Data.List.Forall2

/-!
# Texts cut in other places

How a text is cut into increments is up to the provider.  A run puts the increments together before
it does anything with them, so that it does not matter: collaborators that give the same texts, cut
in other places, see the same run, and its listener reads the same events but for the places where
the increments are cut.

* `merged`: events, with increments of one text that follow on one another put together.
* `Team.Recuts`: collaborators that answer the same but for the cuts of their texts.
* `Recut`: steps that are the same but for these cuts.
* `Run.recuts_diagram`: a run does the same but for the cuts.
* `execute_recut`: **where a text is cut never matters**.
-/

namespace ArchDiagram

/-! ## Increments put together -/

/-- Puts an event in front of others.  If it and the first of them pass on increments of one text
they become one. -/
def glue (e : Event) : List Event → List Event
  | [] => [e]
  | e' :: es =>
    match e.passage?, e'.passage? with
    | some (k, c), some (k', c') => if k = k' then k.chunk (c ++ c') :: es else e :: e' :: es
    | _, _ => e :: e' :: es

/-- Events, with increments of one text that follow on one another put together. -/
def merged (events : List Event) : List Event :=
  events.foldr glue []

example : merged [.mappingChunk "<com", .mappingChunk "ponent>", .diagramChunk "gr",
    .diagramFixChunk "a" 1 2, .diagramFixChunk "ph" 1 2, .diagramFixChunk "x" 2 2] =
    [.mappingChunk "<component>", .diagramChunk "gr", .diagramFixChunk "aph" 1 2,
      .diagramFixChunk "x" 2 2] := by
  decide

/-- Two increments of one text may be put together first. -/
theorem glue_glue (k : Occasion) (c d : String) (events : List Event) :
    glue (k.chunk c) (glue (k.chunk d) events) = glue (k.chunk (c ++ d)) events := by
  cases events with
  | nil => simp [glue]
  | cons e es =>
    rcases he : e.passage? with _ | ⟨k', c'⟩
    · simp [glue, he]
    · by_cases hk : k = k'
      · subst hk
        simp [glue, he, String.append_assoc]
      · simp [glue, he, hk]

/-- The increments of a text in front of other events come to its whole text. -/
theorem foldr_glue_chunks (k : Occasion) {cs : List String} (hcs : ∀ c ∈ cs, c ≠ "")
    (events : List Event) : (cs.map k.chunk).foldr glue events =
      if cs = [] then events else glue (k.chunk (String.join cs)) events := by
  induction cs with
  | nil => rfl
  | cons c cs ih =>
    have hcs' : ∀ d ∈ cs, d ≠ "" := fun d hd => hcs d (List.mem_cons_of_mem _ hd)
    rw [List.map_cons, List.foldr_cons, ih hcs', if_neg (List.cons_ne_nil _ _)]
    by_cases hnil : cs = []
    · subst hnil
      simp
    · rw [if_neg hnil, glue_glue, String.join_cons]

/-- Where a text is cut is lost when its increments are put together. -/
theorem foldr_glue_increments (k : Occasion) (cs : List String) (events : List Event) :
    (emitted (increments k.chunk cs)).foldr glue events =
      if String.join cs = "" then events else glue (k.chunk (String.join cs)) events := by
  have hne : ∀ c ∈ cs.filter (· ≠ ""), c ≠ "" := by
    intro c hc
    simpa using (List.mem_filter.mp hc).2
  have hnil : cs.filter (· ≠ "") = [] ↔ String.join cs = "" := by
    rw [← join_filter_ne_empty cs]
    cases hcs : cs.filter (· ≠ "") with
    | nil => simp
    | cons c ds =>
      have hc : c ≠ "" := hne c (by rw [hcs]; exact List.mem_cons_self)
      simp [String.append_eq_empty_iff, hc]
  rw [emitted_increments, foldr_glue_chunks k hne, join_filter_ne_empty]
  simp only [hnil]

/-! ## Steps that are cut in other places -/

/-- One text, cut in two ways, that comes to the same end. -/
def TextStream.SameText (x y : TextStream) : Prop :=
  String.join x.increments = String.join y.increments ∧ x.ending = y.ending

def TextStream.outcome (x : TextStream) : Except Halt String :=
  match x.ending.halt? with
  | none => .ok (String.join x.increments)
  | some h => .error h

theorem TextStream.SameText.outcome_eq {x y : TextStream} (h : x.SameText y) :
    x.outcome = y.outcome := by
  rw [outcome, outcome, h.1, h.2]

/-- Steps that are the same, but that the texts among them are cut in other places. -/
inductive Recut : List Step → List Step → Prop
  | nil : Recut [] []
  | step (s : Step) {a b : List Step} : Recut a b → Recut (s :: a) (s :: b)
  | text (q : TextRequest) (k : Occasion) {x y : TextStream} {a b : List Step} : x.SameText y →
      Recut a b → Recut (.generate q (.ok x) :: (increments k.chunk x.increments ++ a))
        (.generate q (.ok y) :: (increments k.chunk y.increments ++ b))

namespace Recut

variable {a b c d : List Step}

theorem refl (a : List Step) : Recut a a := by
  induction a with
  | nil => exact .nil
  | cons s a ih => exact .step s ih

theorem append (h : Recut a b) (h' : Recut c d) : Recut (a ++ c) (b ++ d) := by
  induction h with
  | nil => exact h'
  | step s _ ih => exact .step s ih
  | text q k hxy _ ih =>
    rw [List.cons_append, List.cons_append, List.append_assoc, List.append_assoc]
    exact .text q k hxy ih

theorem merged_eq (h : Recut a b) : merged (emitted a) = merged (emitted b) := by
  induction h with
  | nil => rfl
  | @step s a b _ ih =>
    cases he : s.event? with
    | none =>
      rw [emitted, emitted, List.filterMap_cons_none he, List.filterMap_cons_none he]
      exact ih
    | some e =>
      rw [emitted, emitted, List.filterMap_cons_some he, List.filterMap_cons_some he]
      exact congrArg (glue e) ih
  | @text q k x y a b hxy _ ih =>
    rw [emitted_generate, emitted_generate, emitted_append, emitted_append, merged, merged,
      List.foldr_append, List.foldr_append, foldr_glue_increments, foldr_glue_increments, hxy.1]
    have ih : (emitted a).foldr glue [] = (emitted b).foldr glue [] := ih
    rw [ih]

theorem filterMap_eq {α : Type} {f : Step → Option α} (h : Recut a b)
    (hf : ∀ (k : Occasion) c, f (.emit (k.chunk c)) = none)
    (hg : ∀ q x y, f (.generate q (.ok x)) = f (.generate q (.ok y))) :
    a.filterMap f = b.filterMap f := by
  have hnone : ∀ (k : Occasion) cs, (increments k.chunk cs).filterMap f = [] := by
    intro k cs
    refine List.filterMap_eq_nil_iff.mpr ?_
    intro s hs
    obtain ⟨c, -, rfl⟩ := List.mem_map.mp hs
    exact hf k c
  induction h with
  | nil => rfl
  | step s _ ih => rw [List.filterMap_cons, List.filterMap_cons, ih]
  | @text q k x y a b _ _ ih =>
    rw [List.filterMap_cons, List.filterMap_cons, List.filterMap_append, List.filterMap_append,
      hnone, hnone, ih, hg q x y]

theorem generated_eq (h : Recut a b) : generated a = generated b :=
  h.filterMap_eq (fun _ _ => rfl) fun _ _ _ => rfl

theorem checks_eq (h : Recut a b) : checks a = checks b :=
  h.filterMap_eq (fun _ _ => rfl) fun _ _ _ => rfl

theorem terminal_eq (h : Recut a b) :
    (emitted a).filter Event.isTerminal = (emitted b).filter Event.isTerminal := by
  rw [emitted, emitted, List.filter_filterMap, List.filter_filterMap]
  refine h.filterMap_eq ?_ fun _ _ _ => rfl
  intro k c
  simp [Step.event?, Option.filter]

end Recut

/-! ## Collaborators and computations -/

/-- Answers that are the same, but that a text is cut in other places. -/
inductive SameAnswer : Answer ProviderError TextStream → Answer ProviderError TextStream → Prop
  | ok {x y : TextStream} : x.SameText y → SameAnswer (.ok x) (.ok y)
  | error (e : ProviderError) : SameAnswer (.error e) (.error e)
  | panic : SameAnswer .panic .panic

variable {σ σ' α β ε : Type} {S : σ → σ' → Prop}

/-- In states related by `S` the collaborators `t` and `t'` give the same answers, but that texts
are cut in other places, and their states stay related. -/
structure Team.Recuts (t : Team σ) (t' : Team σ') (S : σ → σ' → Prop) : Prop where
  fetch : ∀ o r k {s s'}, S s s' →
    (t.fetch o r k s).1 = (t'.fetch o r k s').1 ∧ S (t.fetch o r k s).2 (t'.fetch o r k s').2
  count : ∀ q {s s'}, S s s' →
    (t.count q s).1 = (t'.count q s').1 ∧ S (t.count q s).2 (t'.count q s').2
  generate : ∀ q {s s'}, S s s' →
    SameAnswer (t.generate q s).1 (t'.generate q s').1 ∧
      S (t.generate q s).2 (t'.generate q s').2
  check : ∀ d {s s'}, S s s' →
    (t.check d s).1 = (t'.check d s').1 ∧ S (t.check d s).2 (t'.check d s').2

namespace Run

/-- What two computations do in two worlds, where these are their steps. -/
structure Agree (S : σ → σ' → Prop) (m : Run σ α) (m' : Run σ' α) (w : World σ) (w' : World σ')
    (steps steps' : List Step) : Prop where
  history : (m w).2.history = steps.reverse ++ w.history
  history' : (m' w').2.history = steps'.reverse ++ w'.history
  quiet : ∀ s ∈ steps, s.isTerminal = false
  quiet' : ∀ s ∈ steps', s.isTerminal = false
  outcome : (m w).1 = (m' w').1
  state : S (m w).2.state (m' w').2.state
  recut : Recut steps steps'

/-- Where no terminal event has been emitted and the collaborators are in related states, two
computations do the same, but that texts are cut in other places. -/
def Recuts (S : σ → σ' → Prop) (m : Run σ α) (m' : Run σ' α) : Prop :=
  ∀ w w', S w.state w'.state → w.history.isOver = false → w'.history.isOver = false →
    ∃ steps steps', Agree S m m' w w' steps steps'

theorem agree_of_eq {m : Run σ α} {m' : Run σ' α} {w : World σ} {w' : World σ'}
    {out : Except Halt α} {s : σ} {s' : σ'} {steps : List Step}
    (hm : m w = (out, ⟨s, steps.reverse ++ w.history⟩))
    (hm' : m' w' = (out, ⟨s', steps.reverse ++ w'.history⟩)) (hs : S s s')
    (hq : ∀ x ∈ steps, x.isTerminal = false) : Agree S m m' w w' steps steps := by
  constructor
  case history => rw [hm]
  case history' => rw [hm']
  case quiet => exact hq
  case quiet' => exact hq
  case outcome => rw [hm, hm']
  case state => rwa [hm, hm']
  case recut => exact .refl steps

theorem recuts_pure (a : α) : Recuts S (pure a : Run σ α) (pure a) :=
  fun _ _ hs _ _ => ⟨[], [], agree_of_eq rfl rfl hs (by simp)⟩

theorem recuts_halt (h : Halt) : Recuts S (halt h : Run σ α) (halt h) :=
  fun _ _ hs _ _ => ⟨[], [], agree_of_eq rfl rfl hs (by simp)⟩

theorem Recuts.bind {m : Run σ α} {m' : Run σ' α} {f : α → Run σ β} {f' : α → Run σ' β}
    (hm : Recuts S m m') (hf : ∀ a, Recuts S (f a) (f' a)) :
    Recuts S (m >>= f) (m' >>= f') := by
  intro w w' hs hw hw'
  obtain ⟨a, a', ha⟩ := hm w w' hs hw hw'
  have hout := ha.outcome
  have hstate := ha.state
  have hh := ha.history
  have hh' := ha.history'
  rcases hmw : m w with ⟨out, w₁⟩
  rcases hmw' : m' w' with ⟨out', w₁'⟩
  rw [hmw] at hh
  rw [hmw'] at hh'
  rw [hmw, hmw'] at hout hstate
  obtain rfl : out = out' := hout
  cases out with
  | error h =>
    have hbind : (m >>= f) w = (.error h, w₁) := by rw [bind_apply, hmw]
    have hbind' : (m' >>= f') w' = (.error h, w₁') := by rw [bind_apply, hmw']
    refine ⟨a, a', ?_, ?_, ha.quiet, ha.quiet', ?_, ?_, ha.recut⟩
    · rw [hbind]; exact hh
    · rw [hbind']; exact hh'
    · rw [hbind, hbind']
    · rw [hbind, hbind']; exact hstate
  | ok x =>
    have hbind : (m >>= f) w = f x w₁ := by rw [bind_apply, hmw]
    have hbind' : (m' >>= f') w' = f' x w₁' := by rw [bind_apply, hmw']
    have hw₁ : w₁.history.isOver = false := by rw [hh]; exact History.isOver_append ha.quiet hw
    have hw₁' : w₁'.history.isOver = false := by
      rw [hh']; exact History.isOver_append ha.quiet' hw'
    obtain ⟨b, b', hb⟩ := hf x w₁ w₁' hstate hw₁ hw₁'
    refine ⟨a ++ b, a' ++ b', ?_, ?_, ?_, ?_, ?_, ?_, ha.recut.append hb.recut⟩
    · rw [hbind, hb.history, hh, List.reverse_append, List.append_assoc]
    · rw [hbind', hb.history', hh', List.reverse_append, List.append_assoc]
    · exact fun s hs => (List.mem_append.mp hs).elim (ha.quiet s) (hb.quiet s)
    · exact fun s hs => (List.mem_append.mp hs).elim (ha.quiet' s) (hb.quiet' s)
    · rw [hbind, hbind']; exact hb.outcome
    · rw [hbind, hbind']; exact hb.state

theorem recuts_emit {e : Event} (he : e.isTerminal = false) :
    Recuts S (emit .loyal e) (emit .loyal e) := by
  intro w w' hs hw hw'
  refine ⟨[.emit e], [.emit e], agree_of_eq (emit_of_heard hw rfl) (emit_of_heard hw' rfl) hs ?_⟩
  simpa using he

theorem pause_apply (d : Duration) (w : World σ) :
    pause d w = (.ok (), ⟨w.state, (pauses d).reverse ++ w.history⟩) := by
  rw [pause, pauses]
  split <;> rfl

theorem recuts_pause (d : Duration) : Recuts S (pause d : Run σ Unit) (pause d) := by
  intro w w' hs _ _
  refine ⟨pauses d, pauses d, agree_of_eq (pause_apply d w) (pause_apply d w') hs ?_⟩
  intro s hs
  rw [pauses] at hs
  split at hs
  · cases hs
  · rw [List.mem_singleton.mp hs]
    rfl

theorem recuts_consult {step : Answer ε α → Step} {question : σ → Answer ε α × σ}
    {question' : σ' → Answer ε α × σ'} (hstep : ∀ a, (step a).isTerminal = false)
    (h : ∀ {s s'}, S s s' → (question s).1 = (question' s').1 ∧ S (question s).2 (question' s').2) :
    Recuts S (consult step question) (consult step question') := by
  intro w w' hs _ _
  obtain ⟨hanswer, hstate⟩ := h hs
  refine ⟨[step (question w.state).1], _,
    agree_of_eq (consult_apply step question w) ?_ hstate ?_⟩
  · rw [consult_apply, hanswer]
    rfl
  · simpa using hstep _

theorem recuts_ask {step : Answer ε α → Step} {question : σ → Answer ε α × σ}
    {question' : σ' → Answer ε α × σ'} (failure : ε → Failure)
    (hstep : ∀ a, (step a).isTerminal = false)
    (h : ∀ {s s'}, S s s' → (question s).1 = (question' s').1 ∧ S (question s).2 (question' s').2) :
    Recuts S (ask step question failure) (ask step question' failure) := by
  refine (recuts_consult hstep h).bind ?_
  rintro (e | a)
  · exact recuts_halt _
  · exact recuts_pure a

/-! ## Texts -/

theorem forward_loyal {event : String → Event} (he : ∀ c, (event c).isTerminal = false)
    (cs : List String) (output : String) {w : World σ} (hw : w.history.isOver = false) :
    forward .loyal event output cs w = (.ok (output ++ String.join cs),
      ⟨w.state, (increments event cs).reverse ++ w.history⟩) := by
  induction cs generalizing output w with
  | nil =>
    rw [String.join_nil, String.append_empty]
    rfl
  | cons c cs ih =>
    rw [forward]
    by_cases hc : c = ""
    · subst hc
      rw [if_pos rfl, ih output hw, increments_cons_empty, String.join_cons, String.empty_append]
    · have hopen : History.isOver (.emit (event c) :: w.history) = false :=
        by
        simpa [History.isOver, he c] using hw
      rw [if_neg hc]
      show (emit _ _ >>= _) w = _
      rw [bind_apply, emit_of_heard hw rfl]
      show forward .loyal event (output ++ c) cs _ = _
      rw [ih (output ++ c) hopen, increments_cons event cs hc, String.join_cons,
        String.append_assoc, List.reverse_cons, List.append_assoc]
      rfl

theorem generate_loyal {p : Setting σ} {q : TextRequest} {event : String → Event}
    (he : ∀ c, (event c).isTerminal = false) {x : TextStream} {w : World σ}
    (hw : w.history.isOver = false) (hx : (p.team.generate q w.state).1 = .ok x) :
    generate p .loyal q event w = (x.outcome, ⟨(p.team.generate q w.state).2,
      (.generate q (.ok x) :: increments event x.increments).reverse ++ w.history⟩) := by
  have hopen : History.isOver (.generate q (.ok x) :: w.history) = false := hw
  have hforward := forward_loyal (w := ⟨(p.team.generate q w.state).2, _⟩) he x.increments "" hopen
  show (ask _ _ _ >>= _) w = _
  rw [ask_bind hx, bind_apply, hforward, TextStream.outcome, String.empty_append,
    List.reverse_cons, List.append_assoc]
  cases x.ending <;> rfl

/-- A text that is cut in other places comes to the same. -/
theorem recuts_generate {p : Setting σ} {p' : Setting σ'} {q : TextRequest} {k : Occasion}
    (h : ∀ {s s'}, S s s' → SameAnswer (p.team.generate q s).1 (p'.team.generate q s').1 ∧
      S (p.team.generate q s).2 (p'.team.generate q s').2) :
    Recuts S (generate p .loyal q k.chunk) (generate p' .loyal q k.chunk) := by
  intro w w' hs hw hw'
  obtain ⟨hanswer, hstate⟩ := h hs
  generalize ha : (p.team.generate q w.state).1 = a at hanswer
  generalize ha' : (p'.team.generate q w'.state).1 = a' at hanswer
  have hincrements : ∀ x : TextStream, ∀ s ∈ Step.generate q (.ok x) ::
      increments k.chunk x.increments, s.isTerminal = false := by
    intro x s hmem
    rcases List.mem_cons.mp hmem with rfl | hmem
    · rfl
    · obtain ⟨c, -, rfl⟩ := List.mem_map.mp hmem
      exact k.isTerminal_chunk c
  have hhalted : ∀ {y : Answer ProviderError TextStream} {h : Halt},
      (p.team.generate q w.state).1 = y → (p'.team.generate q w'.state).1 = y →
      y.halt? .provider = some h → ∃ steps steps', Agree S (generate p .loyal q k.chunk)
        (generate p' .loyal q k.chunk) w w' steps steps' := by
    intro y h hy hy' hh
    have hrun : generate p .loyal q k.chunk w = _ := ask_bind_halt hy hh
    have hrun' : generate p' .loyal q k.chunk w' = _ := ask_bind_halt hy' hh
    refine ⟨[.generate q y], _, agree_of_eq hrun hrun' hstate ?_⟩
    intro s hs
    rw [List.mem_singleton.mp hs]
    rfl
  cases hanswer with
  | @ok x y hxy =>
    have hx := generate_loyal k.isTerminal_chunk hw ha
    have hy := generate_loyal k.isTerminal_chunk hw' ha'
    have hrecut : Recut (.generate q (.ok x) :: (increments k.chunk x.increments ++ []))
        (.generate q (.ok y) :: (increments k.chunk y.increments ++ [])) := .text q k hxy .nil
    rw [List.append_nil, List.append_nil] at hrecut
    refine ⟨_, _, ?_, ?_, hincrements x, hincrements y, ?_, ?_, hrecut⟩
    · rw [hx]
    · rw [hy]
    · rw [hx, hy, hxy.outcome_eq]
    · rwa [hx, hy]
  | error e => exact hhalted ha ha' rfl
  | panic => exact hhalted ha ha' rfl

/-! ## Runs -/

theorem recuts_measure {p : Setting σ} {t : Team σ'} (ht : p.team.Recuts t S) (snap : Snapshot)
    (apiKey : Option String) :
    Recuts S (measure p snap apiKey) (measure { p with team := t } snap apiKey) := by
  refine (recuts_consult (fun _ => rfl) (ht.count _)).bind ?_
  rintro (e | n)
  · exact recuts_pure _
  · exact recuts_pure n

/-- To do the same but for the cuts is a relation of runs that only differ in their
collaborators. -/
theorem alongside_recuts {p : Setting σ} {t : Team σ'} (ht : p.team.Recuts t S)
    (r : DiagramRequest) :
    Alongside p t .loyal .loyal r r.apiKey r.hostToken (Recuts S) where
  pure := recuts_pure
  rejected _ := recuts_halt _
  unresolved _ := recuts_halt _
  bind := Recuts.bind
  emit _ := recuts_emit
  pause := recuts_pause
  fetch := recuts_ask _ (fun _ => rfl) (ht.fetch _ _ _)
  measure snap := recuts_measure ht snap r.apiKey
  generate q k _ hq := by
    rw [← hq]
    exact recuts_generate (ht.generate q)
  check d := recuts_ask _ (fun _ => rfl) (ht.check d)

/-- **Up to its terminal event a run does the same but for the cuts.** -/
theorem recuts_diagram {p : Setting σ} {t : Team σ'} (ht : p.team.Recuts t S)
    (r : DiagramRequest) :
    Recuts S (diagram p .loyal r) (diagram { p with team := t } .loyal r) :=
  (alongside_recuts ht r).diagram rfl

end Run

theorem closing_loyal_eq (steps steps' : List Step) (out : Except Halt Event) :
    closing .loyal steps out = closing .loyal steps' out := by
  cases h : terminalEvent? out with
  | none => rw [closing, closing, h]
  | some e => rw [closing_loyal h, closing_loyal h]

/-- **Where a text is cut never matters.**  Let the collaborators of two runs give the same answers,
but that the texts are cut in other places, and let the listeners stay.  Then the runs end with the
same event, ask for the same texts and have the same diagrams checked, with the same verdicts, and
their events are the same once the increments of each text are put together. -/
theorem execute_recut (p : Setting σ) {t : Team σ'} (ht : p.team.Recuts t S) (r : DiagramRequest)
    {s : σ} {s' : σ'} (hs : S s s') :
    let steps := (execute p .loyal r ⟨s, []⟩).history.reverse
    let steps' := (execute { p with team := t } .loyal r ⟨s', []⟩).history.reverse
    (emitted steps).filter Event.isTerminal = (emitted steps').filter Event.isTerminal ∧
      generated steps = generated steps' ∧ checks steps = checks steps' ∧
      merged (emitted steps) = merged (emitted steps') := by
  intro steps steps'
  obtain ⟨a, a', ha⟩ := Run.recuts_diagram ht r ⟨s, []⟩ ⟨s', []⟩ hs rfl rfl
  have hx := executed_diagram p .loyal r s
  have hx' := executed_diagram { p with team := t } .loyal r s'
  have hsteps : steps = _ := hx.all_eq
  have hsteps' : steps' = _ := hx'.all_eq
  have hrecut : Recut steps steps' := by
    rw [hsteps, hsteps', ha.history, ha.history', ha.outcome, List.append_nil, List.append_nil,
      List.reverse_reverse, List.reverse_reverse, closing_loyal_eq a a']
    exact ha.recut.append (.refl _)
  exact ⟨hrecut.terminal_eq, hrecut.generated_eq, hrecut.checks_eq, hrecut.merged_eq⟩

/-! ## Rehearsals -/

/-- Scripts that are the same, but that their texts are cut in other places. -/
structure Rehearsal.Recuts (r r' : Rehearsal) : Prop where
  snapshot : r.snapshot = r'.snapshot
  tokens : r.tokens = r'.tokens
  texts : List.Forall₂ SameAnswer r.texts r'.texts
  verdicts : r.verdicts = r'.verdicts

theorem Rehearsal.team_recuts : Rehearsal.team.Recuts Rehearsal.team Rehearsal.Recuts where
  fetch _ _ _ _ _ h := ⟨h.snapshot, h⟩
  count _ _ _ h := ⟨h.tokens, h⟩
  generate _ r r' h := by
    obtain ⟨_, _, texts, _⟩ := r
    obtain ⟨_, _, texts', _⟩ := r'
    obtain ⟨rfl, rfl, htexts, rfl⟩ := h
    cases htexts with
    | nil => exact ⟨.ok ⟨rfl, rfl⟩, rfl, rfl, .nil, rfl⟩
    | cons hxy htexts => exact ⟨hxy, rfl, rfl, htexts, rfl⟩
  check _ r r' h := by
    obtain ⟨_, _, _, verdicts⟩ := r
    obtain ⟨_, _, _, verdicts'⟩ := r'
    obtain ⟨rfl, rfl, htexts, rfl⟩ := h
    cases verdicts with
    | nil => exact ⟨rfl, rfl, rfl, htexts, rfl⟩
    | cons v vs => exact ⟨rfl, rfl, rfl, htexts, rfl⟩

/-- A tag that is cut in two makes no difference. -/
theorem execute_recut_tag :
    let snapshot : Answer SnapshotError Snapshot := .ok ⟨"main", "a.py", "b"⟩
    let script : Rehearsal := ⟨snapshot, .ok 10, [.ok ⟨["one"], .finished⟩,
      .ok ⟨["<component_mapping>two</component_mapping>"], .finished⟩,
      .ok ⟨["graph"], .failed (.stream "lost")⟩], []⟩
    let script' : Rehearsal := ⟨snapshot, .ok 10, [.ok ⟨["o", "", "ne"], .finished⟩,
      .ok ⟨["<component_", "mapping>two</", "component_mapping>"], .finished⟩,
      .ok ⟨["gra", "ph"], .failed (.stream "lost")⟩], []⟩
    let p : Setting Rehearsal := ⟨Rehearsal.team, .standard, "o4-mini", ⟨0⟩, 2⟩
    let r : DiagramRequest := ⟨"octo", "demo", none, none⟩
    let steps := (execute p .loyal r ⟨script, []⟩).history.reverse
    let steps' := (execute p .loyal r ⟨script', []⟩).history.reverse
    script.Recuts script' ∧ generated steps = generated steps' ∧
      merged (emitted steps) = merged (emitted steps') := by
  intro snapshot script script' p r steps steps'
  have hscript : script.Recuts script' := by
    refine ⟨rfl, rfl, ?_, rfl⟩
    refine .cons (.ok ⟨?_, rfl⟩) (.cons (.ok ⟨?_, rfl⟩) (.cons (.ok ⟨?_, rfl⟩) .nil))
    · decide
    · decide
    · decide
  obtain ⟨-, hgenerated, -, hmerged⟩ := execute_recut p Rehearsal.team_recuts r hscript
  exact ⟨hscript, hgenerated, hmerged⟩

end ArchDiagram
