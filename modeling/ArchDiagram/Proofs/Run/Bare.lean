import ArchDiagram.Proofs.Diagram.Fence
import ArchDiagram.Proofs.Run.Pipeline
import ArchDiagram.Run.Rehearsal

/-!
# Diagrams that are checked

Whatever the model draws or repairs goes through `Diagram.stripFences` before it is checked, so that
the checker only sees bare diagrams.  Each course of a run keeps to that: the repair does if the
diagram that it begins with is bare, which is why this is no `Invariant` of the single steps.

* `Step.ChecksBare`: a step that gives the checker no other diagram than a bare one.
* `Run.Drawing.checksBare`: **no step of a run gives it another one**.
* `execute_checks_bare`: **fences are taken off for good, and always before a check**.
-/

namespace ArchDiagram

open Diagram

variable {σ : Type} {p : Setting σ} {apiKey : Option String} {r : DiagramRequest}

def Step.ChecksBare : Step → Prop
  | .check diagram _ => IsBare diagram
  | _ => True

theorem checksBare_pauses (d : Duration) : ∀ x ∈ pauses d, x.ChecksBare := by
  rw [pauses]
  split
  · exact List.forall_mem_nil _
  · exact List.forall_mem_singleton.mpr trivial

theorem checksBare_increments (event : String → Event) (cs : List String) :
    ∀ x ∈ increments event cs, x.ChecksBare := by
  intro x hx
  obtain ⟨c, -, rfl⟩ := List.mem_map.mp hx
  exact trivial

theorem Stage.checksBare_opening (s : Stage) : ∀ x ∈ s.opening p, x.ChecksBare := by
  refine List.forall_mem_cons.mpr ⟨trivial, List.forall_mem_append.mpr ⟨?_, ?_⟩⟩
  · exact checksBare_pauses _
  · exact List.forall_mem_singleton.mpr trivial

namespace Run

theorem Measuring.checksBare {s : Snapshot} {steps : List Step} {out : Except Halt Nat}
    (h : Measuring p s apiKey steps out) : ∀ x ∈ steps, x.ChecksBare := by
  cases h <;> exact List.forall_mem_singleton.mpr trivial

theorem Generating.checksBare {q : TextRequest} {event : String → Event} {steps : List Step}
    {out : Except Halt String} (h : Generating q event steps out) :
    ∀ x ∈ steps, x.ChecksBare := by
  cases h with
  | whole cs => exact List.forall_mem_cons.mpr ⟨trivial, checksBare_increments event cs⟩
  | unopened _ => exact List.forall_mem_singleton.mpr trivial
  | cut _ => exact List.forall_mem_cons.mpr ⟨trivial, checksBare_increments event _⟩
  | unheard hfront =>
    refine List.forall_mem_cons.mpr ⟨trivial, fun x hx => ?_⟩
    exact checksBare_increments event _ x (hfront.subset hx)

theorem Staging.checksBare {s : Stage} {sections : List Section} {steps : List Step}
    {out : Except Halt String} (h : Staging p s sections apiKey steps out) :
    ∀ x ∈ steps, x.ChecksBare := by
  cases h with
  | opened hg => exact List.forall_mem_append.mpr ⟨s.checksBare_opening, hg.checksBare⟩
  | unheard hfront => exact fun x hx => s.checksBare_opening x (hfront.subset hx)

variable {f : Findings}

/-- In a round only what has been stripped of its fences is checked. -/
theorem Round.checksBare {i : Nat} {diagram : String} {v : Verdict} {steps : List Step}
    {out : Except Halt (String × Verdict)} (h : Round p apiKey f i diagram v steps out) :
    ∀ x ∈ steps, x.ChecksBare := by
  have hlast : ∀ (answer : String) (a : Answer Empty Verdict),
      ∀ x ∈ [.emit (validatingEvent i p.maxRepairs), .check (stripFences answer) a],
        Step.ChecksBare x := by
    intro answer a
    exact List.forall_mem_cons.mpr ⟨trivial, List.forall_mem_singleton.mpr (isBare_stripFences _)⟩
  cases h with
  | judged v' hm hs =>
    subst hs
    exact List.forall_mem_cons.mpr
      ⟨trivial, List.forall_mem_append.mpr ⟨hm.checksBare, hlast _ _⟩⟩
  | unchecked hm hs =>
    subst hs
    exact List.forall_mem_cons.mpr
      ⟨trivial, List.forall_mem_append.mpr ⟨hm.checksBare, hlast _ _⟩⟩
  | unmended hm => exact List.forall_mem_cons.mpr ⟨trivial, hm.checksBare⟩
  | unheard => exact List.forall_mem_nil _
  | unheardAfter hm => exact List.forall_mem_cons.mpr ⟨trivial, hm.checksBare⟩

theorem Repairing.checksBare {i left : Nat} {diagram : String} {v : Verdict} {steps : List Step}
    {out : Except Halt (String × Verdict)} (h : Repairing p apiKey f i diagram v left steps out) :
    ∀ x ∈ steps, x.ChecksBare := by
  induction h with
  | rest _ => exact List.forall_mem_nil _
  | halted _ hr => exact hr.checksBare
  | next _ hr _ ih => exact List.forall_mem_append.mpr ⟨hr.checksBare, ih⟩

theorem Ensuring.checksBare {diagram : String} {steps : List Step} {out : Except Halt String}
    (h : Ensuring p apiKey f diagram steps out) (hd : IsBare diagram) :
    ∀ x ∈ steps, x.ChecksBare := by
  cases h with
  | unchecked => exact List.forall_mem_singleton.mpr hd
  | accepted _ => exact List.forall_mem_singleton.mpr hd
  | unheard _ => exact List.forall_mem_singleton.mpr hd
  | halted _ hr | unresolved _ hr _ | unheardAfter _ hr _ =>
    exact List.forall_mem_cons.mpr ⟨hd, List.forall_mem_cons.mpr ⟨trivial, hr.checksBare⟩⟩
  | repaired _ hr _ =>
    refine List.forall_mem_cons.mpr ⟨hd, List.forall_mem_cons.mpr ⟨trivial, ?_⟩⟩
    exact List.forall_mem_append.mpr ⟨hr.checksBare, List.forall_mem_singleton.mpr trivial⟩

theorem Making.checksBare {s : Snapshot} {steps : List Step} {out : Except Halt Event}
    (h : Making p r s steps out) : ∀ x ∈ steps, x.ChecksBare := by
  cases h with
  | unexplained ha => exact ha.checksBare
  | unmapped ha hb => exact List.forall_mem_append.mpr ⟨ha.checksBare, hb.checksBare⟩
  | undrawn ha hb hc =>
    simp only [List.forall_mem_append]
    exact ⟨ha.checksBare, hb.checksBare, hc.checksBare⟩
  | invalid ha hb hc hd | complete ha hb hc hd =>
    simp only [List.forall_mem_append]
    exact ⟨ha.checksBare, hb.checksBare, hc.checksBare, hd.checksBare (isBare_stripFences _)⟩

/-- **No step of a run gives the checker a diagram that is not bare.** -/
theorem Drawing.checksBare {steps : List Step} {out : Except Halt Event}
    (h : Drawing p r steps out) : ∀ x ∈ steps, x.ChecksBare := by
  cases h with
  | unfetched _ => exact List.forall_mem_singleton.mpr trivial
  | unmeasured hm => exact List.forall_mem_cons.mpr ⟨trivial, hm.checksBare⟩
  | unheard hm => exact List.forall_mem_cons.mpr ⟨trivial, hm.checksBare⟩
  | rejected hm _ =>
    refine List.forall_mem_cons.mpr ⟨trivial, List.forall_mem_append.mpr ⟨hm.checksBare, ?_⟩⟩
    exact List.forall_mem_singleton.mpr trivial
  | passed hm _ hs =>
    refine List.forall_mem_cons.mpr ⟨trivial, List.forall_mem_append.mpr ⟨hm.checksBare, ?_⟩⟩
    exact List.forall_mem_cons.mpr ⟨trivial, hs.checksBare⟩

end Run

theorem checksBare_closing (l : Listener) (steps : List Step) (out : Except Halt Event) :
    ∀ x ∈ closing l steps out, x.ChecksBare := by
  rw [closing]
  split
  · split
    · exact List.forall_mem_singleton.mpr trivial
    · exact List.forall_mem_nil _
  · exact List.forall_mem_nil _

theorem mem_checked {steps : List Step} {diagram : String} (h : diagram ∈ checked steps) :
    ∃ a, .check diagram a ∈ steps := by
  obtain ⟨x, hx, hdiagram⟩ := List.mem_filterMap.mp h
  cases x with
  | check d a =>
    cases hdiagram
    exact ⟨a, hx⟩
  | fetch | count | generate | pause | emit => cases hdiagram

/-- How `strip` takes fences off texts. -/
structure TakesFencesOff (strip : String → String) : Prop where
  bare : ∀ text, IsBare (strip text)
  again : ∀ text, strip (strip text) = strip text
  plain : ∀ body, IsUnfenced body → strip body = Text.trim body
  block : ∀ opening ∈ [mermaidFence, fence], ∀ body, IsUnfenced body →
    strip (fenced opening body) = Text.trim body

/-- **Fences are taken off for good, and always before a check**: every diagram that a run gives to
the checker is bare, whoever listens and whatever the collaborators answer. -/
theorem execute_checks_bare (p : Setting σ) (l : Listener) (r : DiagramRequest) (s : σ) :
    TakesFencesOff stripFences ∧
      ∀ diagram ∈ checked (execute p l r ⟨s, []⟩).history.reverse, IsBare diagram := by
  refine ⟨⟨isBare_stripFences, fun text => (isBare_stripFences text).stripFences_eq,
    fun body => stripFences_of_unfenced, fun opening hopening body => stripFences_fenced hopening⟩,
    ?_⟩
  intro diagram hdiagram
  obtain ⟨a, ha⟩ := mem_checked hdiagram
  obtain ⟨steps, out, hx⟩ := executed p l r s
  rw [hx.all_eq] at ha
  have hbare : ∀ x ∈ steps ++ closing l steps out, x.ChecksBare :=
    List.forall_mem_append.mpr ⟨hx.course.checksBare, checksBare_closing l steps out⟩
  exact hbare _ ha

/-- A fence in two increments, and one that only comes about when another one is taken off. -/
example :
    let script : Rehearsal := ⟨.ok ⟨"main", "a.py", "b"⟩, .ok 10,
      [.ok ⟨["one"], .finished⟩, .ok ⟨["two"], .finished⟩,
        .ok ⟨["\x60\x60", "\x60mermaid\nflow", "chart\n\x60\x60\x60\n"], .finished⟩,
        .ok ⟨["\x60\x60\x60merm\x60\x60\x60mermaidaid\ngraph"], .finished⟩],
      [.ok (.rejected "no such shape")]⟩
    let p : Setting Rehearsal := ⟨Rehearsal.team, .standard, "o4-mini", ⟨0⟩, 2⟩
    let r : DiagramRequest := ⟨"octo", "demo", none, none⟩
    checked (execute p .loyal r ⟨script, []⟩).history.reverse =
      ["flowchart", "mermaid\ngraph"] := by
  decide +kernel

end ArchDiagram
