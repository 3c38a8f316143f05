import ArchDiagram.Diagram.Fence
import ArchDiagram.Proofs.Text.Occurrence
import ArchDiagram.Proofs.Text.Trim

/-!
# Diagrams without fences

Fences are taken off in two passes, and what stood around one that is taken off moves together.  The
first pass may well make new fences that way, but the second one may not: of a run of backticks it
leaves as many as stand over when they are counted off by threes (`ticks_replaceAll`), and the runs
themselves stay apart.

* `IsBare`: a diagram as it is given to the checker.
* `isBare_stripFences`: **nothing is left to be taken off**.
* `stripFences_fenced`: **a fenced block is stripped down to its body**.
-/

namespace ArchDiagram.Diagram

open Text

def IsUnfenced (s : String) : Prop :=
  ¬ fence <:+: s.toList

/-- A diagram without fences, and without white space at its ends. -/
structure IsBare (diagram : String) : Prop where
  unfenced : IsUnfenced diagram
  trimmed : IsTrimmed isBlank diagram.toList

/-- A body in a block that the fence `opening` opens. -/
def fenced (opening : List Char) (body : String) : String :=
  String.ofList opening ++ "\n" ++ body ++ "\n" ++ String.ofList fence

/-! ## Runs of backticks -/

def ticks (cs : List Char) : Nat :=
  (cs.takeWhile (· == '\x60')).length

theorem ticks_tick (cs : List Char) : ticks ('\x60' :: cs) = ticks cs + 1 := rfl

theorem ticks_cons_of_ne {c : Char} (hc : c ≠ '\x60') (cs : List Char) : ticks (c :: cs) = 0 := by
  simp [ticks, hc]

theorem ticks_fence_append (cs : List Char) : ticks (fence ++ cs) = ticks cs + 3 := rfl

theorem fence_ne_nil : fence ≠ [] :=
  List.cons_ne_nil _ _

theorem three_le_ticks_iff {cs : List Char} : 3 ≤ ticks cs ↔ fence <+: cs := by
  constructor
  · intro h
    have hall : ∀ c ∈ cs.takeWhile (· == '\x60'), c = '\x60' := fun c hc => by
      simpa using List.mem_takeWhile_imp hc
    have hrun : cs.takeWhile (· == '\x60') = List.replicate (ticks cs) '\x60' :=
      List.eq_replicate_iff.mpr ⟨rfl, hall⟩
    have hfence : fence <+: List.replicate (ticks cs) '\x60' := by
      rw [← Nat.add_sub_cancel' h, ← List.replicate_append_replicate]
      exact List.prefix_append _ _
    rw [← hrun] at hfence
    exact hfence.trans (List.takeWhile_prefix _)
  · rintro ⟨rest, rfl⟩
    rw [ticks_fence_append]
    omega

/-- Of a run of backticks those are left that stand over. -/
theorem ticks_replaceAll (cs : List Char) : ticks (replaceAll fence [] cs) = ticks cs % 3 := by
  induction cs using cut_induction fence_ne_nil with
  | nil => rfl
  | char c cs h ih =>
    rw [replaceAll_cons fence_ne_nil h]
    by_cases hc : c = '\x60'
    · subst hc
      rw [← three_le_ticks_iff, ticks_tick] at h
      rw [ticks_tick, ticks_tick, ih]
      omega
    · rw [ticks_cons_of_ne hc, ticks_cons_of_ne hc]
  | occurrence cs ih =>
    rw [replaceAll_append_self fence_ne_nil, List.nil_append, ih, ticks_fence_append]
    omega

theorem not_infix_replaceAll (cs : List Char) : ¬ fence <:+: replaceAll fence [] cs := by
  induction cs using cut_induction fence_ne_nil with
  | nil => decide
  | char c cs h ih =>
    have hstart : ¬ fence <+: replaceAll fence [] (c :: cs) := by
      rw [← three_le_ticks_iff, ticks_replaceAll]
      omega
    rw [replaceAll_cons fence_ne_nil h] at hstart ⊢
    rw [List.infix_cons_iff]
    exact not_or.mpr ⟨hstart, ih⟩
  | occurrence cs ih =>
    rw [replaceAll_append_self fence_ne_nil]
    exact ih

/-! ## Taking fences off -/

theorem toList_stripFences (s : String) : (stripFences s).toList =
    trimBy isBlank (replaceAll fence [] (replaceAll mermaidFence [] s.toList)) := by
  simp [stripFences]

/-- **Nothing is left to be taken off.** -/
theorem isBare_stripFences (s : String) : IsBare (stripFences s) := by
  obtain ⟨front, back, hsplit, -, -, htrimmed⟩ :=
    exists_trimBy isBlank (replaceAll fence [] (replaceAll mermaidFence [] s.toList))
  rw [← toList_stripFences] at hsplit htrimmed
  refine ⟨fun hfence => ?_, htrimmed⟩
  refine not_infix_replaceAll (replaceAll mermaidFence [] s.toList) (hfence.trans ?_)
  exact ⟨front, back, by rw [hsplit, List.append_assoc]⟩

theorem mermaidFence_ne_nil : mermaidFence ≠ [] :=
  List.cons_ne_nil _ _

theorem fence_infix_mermaidFence : fence <:+: mermaidFence :=
  (List.prefix_append fence _).isInfix

theorem not_infix_mermaidFence {cs : List Char} (h : ¬ fence <:+: cs) : ¬ mermaidFence <:+: cs :=
  fun hm => h (fence_infix_mermaidFence.trans hm)

/-- A text without fences is trimmed, and that is all. -/
theorem stripFences_of_unfenced {s : String} (h : IsUnfenced s) : stripFences s = trim s := by
  rw [stripFences, replaceAll_of_not_infix (not_infix_mermaidFence h), replaceAll_of_not_infix h,
    trim]

theorem IsBare.stripFences_eq {s : String} (h : IsBare s) : stripFences s = s := by
  rw [stripFences_of_unfenced h.unfenced, trim, trimBy_of_isTrimmed h.trimmed, String.ofList_toList]

theorem lineFeed_not_mem_mermaidFence : '\n' ∉ mermaidFence := by
  decide

theorem lineFeed_not_mem_fence : '\n' ∉ fence := by
  decide

theorem not_infix_fence : ¬ mermaidFence <:+: fence := by
  decide

/-- What is left of the end of a block. -/
theorem replaceAll_closing {body : List Char} (h : ¬ fence <:+: body) :
    replaceAll fence [] (replaceAll mermaidFence [] ('\n' :: (body ++ '\n' :: fence))) =
      '\n' :: (body ++ ['\n']) := by
  have hfence : replaceAll fence [] fence = [] :=
    replaceAll_append_self fence_ne_nil []
  rw [replaceAll_cons_of_not_mem mermaidFence_ne_nil lineFeed_not_mem_mermaidFence,
    replaceAll_append_cons lineFeed_not_mem_mermaidFence (not_infix_mermaidFence h),
    replaceAll_of_not_infix not_infix_fence,
    replaceAll_cons_of_not_mem fence_ne_nil lineFeed_not_mem_fence,
    replaceAll_append_cons lineFeed_not_mem_fence h, hfence]

/-- **A fenced block is stripped down to its body.** -/
theorem stripFences_fenced {opening : List Char} (hopening : opening ∈ [mermaidFence, fence])
    {body : String} (h : IsUnfenced body) : stripFences (fenced opening body) = trim body := by
  have hlist : (fenced opening body).toList =
      opening ++ '\n' :: (body.toList ++ '\n' :: fence) := by
    simp [fenced]
  have hstrip : replaceAll fence [] (replaceAll mermaidFence [] (fenced opening body).toList) =
      '\n' :: (body.toList ++ ['\n']) := by
    rw [hlist, ← replaceAll_closing h]
    simp only [List.mem_cons, List.not_mem_nil, or_false] at hopening
    rcases hopening with rfl | rfl
    · rw [replaceAll_append_self mermaidFence_ne_nil, List.nil_append]
    · rw [replaceAll_append_cons lineFeed_not_mem_mermaidFence not_infix_fence,
        replaceAll_append_self fence_ne_nil, List.nil_append,
        replaceAll_cons_of_not_mem mermaidFence_ne_nil lineFeed_not_mem_mermaidFence]
  have hblank : ∀ c ∈ ['\n'], isBlank c = true :=
    List.forall_mem_singleton.mpr rfl
  have htrim : trimBy isBlank ('\n' :: (body.toList ++ ['\n'])) = trimBy isBlank body.toList :=
    trimBy_wrapped hblank hblank body.toList
  rw [stripFences, hstrip, trim, htrim]

end ArchDiagram.Diagram
