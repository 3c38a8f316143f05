import ArchDiagram.Proofs.Run.Repair
import ArchDiagram.Run.Pipeline

/-!
# The course of a run

A run fetches a snapshot, measures it (`Measuring`), and if the gate lets it pass goes through the
stages and the repair (`Making`).  `Drawing` is all of this up to the terminal event, and `Executed`
what a whole run does: these steps, and then the terminal event if somebody listens.

* `follows_measure`, `follows_make`, `follows_diagram`: runs keep to these courses.
* `executed`: **every run from its start is a case of `Executed`**.
-/

namespace ArchDiagram

variable {σ : Type} {t : Team σ} {l : Listener}

namespace Run

/-! ## The snapshot and the estimate -/

theorem follows_fetch (p : Setting σ) (r : DiagramRequest) :
    (fetch p r).Follows p.team l (Asking (.fetch r.owner r.repo r.hostToken) .snapshot) :=
  follows_ask _ _ (fun _ => rfl) (fun s => ⟨s, rfl⟩) (by simp)

/-- The input of the first stage is measured, by the provider or else by its characters. -/
inductive Measuring (p : Setting σ) (s : Snapshot) (apiKey : Option String) : Course Nat
  | counted (n : Nat) : Measuring p s apiKey
      [.count (explanationRequest p.model s apiKey) (.ok n)] (.ok n)
  | estimated (e : ProviderError) : Measuring p s apiKey
      [.count (explanationRequest p.model s apiKey) (.error e)]
      (.ok (Gate.estimateOf (s.fileTree ++ "\n" ++ s.readme)))
  | panic : Measuring p s apiKey
      [.count (explanationRequest p.model s apiKey) .panic] (.error .panicked)

theorem follows_measure (p : Setting σ) (s : Snapshot) (apiKey : Option String) :
    (measure p s apiKey).Follows p.team l (Measuring p s apiKey) := by
  refine (follows_consult (.count _) (p.team.count _) (fun _ => rfl) fun s => ⟨s, rfl⟩).bind ?_ ?_
  · rintro steps h ⟨⟩
    exact .panic
  · rintro steps a (n | e)
    · exact follows_pure _ (.counted n)
    · exact follows_pure _ (.estimated e)

/-! ## The stages -/

section

variable (p : Setting σ) (r : DiagramRequest) (s : Snapshot)

/-- The course of the first stage. -/
abbrev Explaining : Course String :=
  Staging p .explanation s.sections r.apiKey

/-- The course of the second stage, after what the first one found out. -/
abbrev Mapping (explanation : String) : Course String :=
  Staging p .mapping [⟨"explanation", explanation⟩, ⟨"file_tree", s.fileTree⟩] r.apiKey

/-- The course of the third stage, after what the first two found out. -/
abbrev Sketching (f : Findings) : Course String :=
  Staging p .diagram [⟨"explanation", f.explanation⟩, ⟨"component_mapping", f.mapping⟩] r.apiKey

abbrev findings (explanation answer : String) : Findings :=
  ⟨explanation, Diagram.mappingOf answer⟩

abbrev completeEvent (f : Findings) (valid : String) : Event :=
  .complete (Diagram.linkPaths ⟨r.owner, r.repo, s.branch⟩ valid) f.explanation f.mapping

/-- A diagram is made: three stages, and the repair of what the third one draws.  Whichever halts
ends it. -/
inductive Making : Course Event
  | unexplained {a : List Step} {h : Halt} : Explaining p r s a (.error h) → Making a (.error h)
  | unmapped {a b : List Step} {explanation : String} {h : Halt} :
      Explaining p r s a (.ok explanation) → Mapping p r s explanation b (.error h) →
      Making (a ++ b) (.error h)
  | undrawn {a b c : List Step} {explanation answer : String} {h : Halt} :
      Explaining p r s a (.ok explanation) → Mapping p r s explanation b (.ok answer) →
      Sketching p r (findings explanation answer) c (.error h) →
      Making (a ++ (b ++ c)) (.error h)
  | invalid {a b c d : List Step} {explanation answer drawing : String} {h : Halt} :
      Explaining p r s a (.ok explanation) → Mapping p r s explanation b (.ok answer) →
      Sketching p r (findings explanation answer) c (.ok drawing) →
      Ensuring p r.apiKey (findings explanation answer) (Diagram.stripFences drawing) d
        (.error h) →
      Making (a ++ (b ++ (c ++ d))) (.error h)
  | complete {a b c d : List Step} {explanation answer drawing valid : String} :
      Explaining p r s a (.ok explanation) → Mapping p r s explanation b (.ok answer) →
      Sketching p r (findings explanation answer) c (.ok drawing) →
      Ensuring p r.apiKey (findings explanation answer) (Diagram.stripFences drawing) d
        (.ok valid) →
      Making (a ++ (b ++ (c ++ d))) (.ok (completeEvent r s (findings explanation answer) valid))

end

theorem follows_make (p : Setting σ) (r : DiagramRequest) (s : Snapshot) :
    (make p l r s).Follows p.team l (Making p r s) := by
  refine follows_runStage.bind ?_ ?_
  · intro a h ha
    exact .unexplained ha
  · intro a explanation ha
    refine follows_runStage.bind ?_ ?_
    · intro b h hb
      exact .unmapped ha hb
    · intro b answer hb
      refine follows_runStage.bind ?_ ?_
      · intro c h hc
        exact .undrawn ha hb hc
      · intro c drawing hc
        refine (follows_ensureValid (Diagram.stripFences drawing)).bind ?_ ?_
        · intro d h hd
          exact .invalid ha hb hc hd
        · intro d valid hd
          exact follows_pure _ (by simpa using Making.complete ha hb hc hd)

/-! ## The run -/

/-- A run up to its terminal event. -/
inductive Drawing (p : Setting σ) (r : DiagramRequest) : Course Event
  | unfetched {a : Answer SnapshotError Snapshot} {h : Halt} : a.halt? .snapshot = some h →
      Drawing p r [.fetch r.owner r.repo r.hostToken a] (.error h)
  | unmeasured {s : Snapshot} {m : List Step} {h : Halt} : Measuring p s r.apiKey m (.error h) →
      Drawing p r (.fetch r.owner r.repo r.hostToken (.ok s) :: m) (.error h)
  | unheard {s : Snapshot} {m : List Step} {n : Nat} : Measuring p s r.apiKey m (.ok n) →
      Drawing p r (.fetch r.owner r.repo r.hostToken (.ok s) :: m)
        (.error (.failed .disconnected))
  | rejected {s : Snapshot} {m : List Step} {n : Nat} {x : Gate.Rejection} :
      Measuring p s r.apiKey m (.ok n) → Gate.decide p.policy n r.apiKey.isSome = some x →
      Drawing p r (.fetch r.owner r.repo r.hostToken (.ok s) :: (m ++ [.emit startedEvent]))
        (.error (.failed (.rejected x)))
  | passed {s : Snapshot} {m steps : List Step} {n : Nat} {out : Except Halt Event} :
      Measuring p s r.apiKey m (.ok n) → Gate.decide p.policy n r.apiKey.isSome = none →
      Making p r s steps out →
      Drawing p r (.fetch r.owner r.repo r.hostToken (.ok s) :: (m ++ .emit startedEvent :: steps))
        out

theorem follows_diagram (p : Setting σ) (r : DiagramRequest) :
    (diagram p l r).Follows p.team l (Drawing p r) := by
  refine (follows_fetch p r).bind ?_ ?_
  · rintro steps h (_ | ha)
    exact .unfetched ha
  · rintro steps s ⟨⟩
    refine (follows_measure p s r.apiKey).bind ?_ ?_
    · intro m h hm
      exact .unmeasured hm
    · intro m n hm
      refine (follows_emit rfl).bind ?_ ?_
      · rintro more h ⟨⟩
        simpa using Drawing.unheard hm
      · rintro more ⟨⟩ ⟨⟩
        cases hd : Gate.decide p.policy n r.apiKey.isSome with
        | some x => exact follows_fail (by simp) (by simpa using Drawing.rejected hm hd)
        | none =>
          refine (follows_make p r s).mono ?_
          intro steps out hs
          simpa using Drawing.passed hm hd hs

end Run

/-! ## Whole runs -/

/-- How a run ends after some steps: with its terminal event, if it has one and it is heard. -/
def closing (l : Listener) (steps : List Step) (out : Except Halt Event) : List Step :=
  match terminalEvent? out with
  | some e => if l steps.reverse then [.emit e] else []
  | none => []

/-- What a whole run does: `all` are its steps, and `steps` those before its end. -/
structure Executed (p : Setting σ) (l : Listener) (r : DiagramRequest) (steps : List Step)
    (out : Except Halt Event) (all : List Step) : Prop where
  course : Run.Drawing p r steps out
  quiet : ∀ s ∈ steps, s.isTerminal = false
  given : ∀ s ∈ steps, p.team.Gives s
  heard : l = .loyal → out ≠ .error (.failed .disconnected)
  all_eq : all = steps ++ closing l steps out

theorem closing_loyal {steps : List Step} {out : Except Halt Event} {e : Event}
    (he : terminalEvent? out = some e) : closing .loyal steps out = [.emit e] := by
  rw [closing, he]
  rfl

theorem deliver_history {e : Event} {w : World σ} (hw : w.history.isOver = false) :
    (deliver l e w).history = if l w.history then .emit e :: w.history else w.history := by
  cases hl : l w.history with
  | true => simp [deliver, Run.emit_of_heard hw hl]
  | false => simp [deliver, Run.emit_of_unheard hw hl]

theorem execute_history {p : Setting σ} {r : DiagramRequest} {w w' : World σ}
    {out : Except Halt Event} (hd : Run.diagram p l r w = (out, w'))
    (hw : w'.history.isOver = false) :
    (execute p l r w).history = closing l w'.history.reverse out ++ w'.history := by
  rw [execute, hd, closing]
  cases ht : terminalEvent? out with
  | none => simp [ht]
  | some e =>
    simp only [ht, hw, List.reverse_reverse]
    cases hl : l w'.history <;> simp [deliver_history hw, hl]

theorem reverse_closing (l : Listener) (steps : List Step) (out : Except Halt Event) :
    (closing l steps out).reverse = closing l steps out := by
  rw [closing]
  cases terminalEvent? out with
  | none => rfl
  | some e =>
    dsimp only
    split <;> rfl

/-- What a run does from its start up to its terminal event, and with it. -/
theorem executed_diagram (p : Setting σ) (l : Listener) (r : DiagramRequest) (s : σ) :
    Executed p l r (Run.diagram p l r ⟨s, []⟩).2.history.reverse (Run.diagram p l r ⟨s, []⟩).1
      (execute p l r ⟨s, []⟩).history.reverse := by
  obtain ⟨steps, hp, hc⟩ := Run.follows_diagram (l := l) p r ⟨s, []⟩ rfl
  cases hd : Run.diagram p l r ⟨s, []⟩ with
  | mk out w' =>
    have hh : w'.history = steps.reverse := by simpa [hd] using hp.history
    have hw : w'.history.isOver = false := by
      rw [hh, ← List.append_nil steps.reverse]
      exact History.isOver_append hp.quiet rfl
    have hsteps : w'.history.reverse = steps := by rw [hh, List.reverse_reverse]
    refine ⟨?_, ?_, ?_, ?_, ?_⟩
    · simpa [hd, hsteps] using hc
    · rw [hsteps]
      exact hp.quiet
    · rw [hsteps]
      exact hp.given
    · intro hl
      simpa [hd] using hp.heard hl
    · rw [execute_history hd hw, List.reverse_append, reverse_closing]

/-- **Every run keeps to its course and then ends with its terminal event**, if there is one and
somebody listens. -/
theorem executed (p : Setting σ) (l : Listener) (r : DiagramRequest) (s : σ) :
    ∃ steps out, Executed p l r steps out (execute p l r ⟨s, []⟩).history.reverse :=
  ⟨_, _, executed_diagram p l r s⟩

end ArchDiagram
