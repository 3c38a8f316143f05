import ArchDiagram.Proofs.Text.Scan

/-!
# Occurrences of a pattern

A text is broken at the first occurrence of a pattern.  Where two texts meet, an occurrence may
begin in the one and end in the other; but it does not if the second begins with a character that
stands nowhere in the pattern but at its front.

* `IsFirst`: the first occurrence of a pattern.
* `breakAt?_eq_some_iff`: **a text is broken at the first occurrence**.
* `length_le_of_occurs`: an occurrence does not cross the front of another one.
* `replaceAll_append_self`, `replaceAll_cons`: what is replaced, and what is not.
* `cut_induction`: induction along the occurrences that do not overlap.
-/

namespace ArchDiagram.Text

variable {pat front cs : List Char}

/-! ## The first occurrence -/

/-- The first occurrence of `pat` in `cs` is the one behind `front`. -/
structure IsFirst (pat front cs : List Char) : Prop where
  occurs : front ++ pat <+: cs
  le : ∀ a, a ++ pat <+: cs → front.length ≤ a.length

theorem IsFirst.unique {front' : List Char} (h : IsFirst pat front cs)
    (h' : IsFirst pat front' cs) : front = front' := by
  have hlength : front.length = front'.length :=
    Nat.le_antisymm (h.le _ h'.occurs) (h'.le _ h.occurs)
  have hfront : front <+: cs := (List.prefix_append front pat).trans h.occurs
  have hfront' : front' <+: cs := (List.prefix_append front' pat).trans h'.occurs
  exact (List.prefix_of_prefix_length_le hfront hfront' hlength.le).eq_of_length hlength

theorem isFirst_nil (h : pat <+: cs) : IsFirst pat [] cs :=
  ⟨h, fun _ _ => Nat.zero_le _⟩

theorem isFirst_cons {c : Char} (h : ¬ pat <+: c :: cs) :
    IsFirst pat (c :: front) (c :: cs) ↔ IsFirst pat front cs := by
  constructor
  · intro hfirst
    refine ⟨(List.prefix_cons_inj c).mp hfirst.occurs, ?_⟩
    intro a ha
    exact Nat.le_of_succ_le_succ (hfirst.le (c :: a) ((List.prefix_cons_inj c).mpr ha))
  · intro hfirst
    refine ⟨(List.prefix_cons_inj c).mpr hfirst.occurs, ?_⟩
    intro a ha
    cases a with
    | nil => exact absurd ha h
    | cons d a =>
      obtain ⟨-, ha⟩ := List.cons_prefix_cons.mp ha
      exact Nat.succ_le_succ (hfirst.le a ha)

theorem breakLoop_eq (pat front cs : List Char) :
    breakLoop pat front cs = (breakAt? pat cs).map fun q => (front.reverse ++ q.1, q.2) := by
  induction cs generalizing front with
  | nil =>
    rw [breakAt?, breakLoop, breakLoop]
    split <;> simp
  | cons c cs ih =>
    rw [breakAt?, breakLoop, breakLoop]
    split
    · simp
    · rw [ih, ih [c], Option.map_map]
      congr 1
      funext q
      simp

theorem breakAt?_cons (c : Char) (cs : List Char) : breakAt? pat (c :: cs) =
    if pat <+: c :: cs then some ([], c :: cs)
    else (breakAt? pat cs).map fun q => (c :: q.1, q.2) := by
  rw [breakAt?, breakLoop]
  simp only [dropFront?_isSome_iff]
  split
  · rfl
  · rw [breakLoop_eq]
    rfl

/-- **A text is broken at the first occurrence.** -/
theorem breakAt?_eq_some_iff {rest : List Char} : breakAt? pat cs = some (front, rest) ↔
    cs = front ++ rest ∧ IsFirst pat front cs := by
  induction cs generalizing front rest with
  | nil =>
    rw [breakAt?, breakLoop]
    constructor
    · intro h
      split at h
      · rename_i hpat
        cases h
        rw [List.isEmpty_iff] at hpat
        exact ⟨rfl, isFirst_nil (List.prefix_nil.mpr hpat)⟩
      · cases h
    · rintro ⟨hsplit, hfirst⟩
      obtain ⟨rfl, rfl⟩ := List.append_eq_nil_iff.mp hsplit.symm
      have hpat : pat = [] := List.prefix_nil.mp hfirst.occurs
      rw [hpat]
      rfl
  | cons c cs ih =>
    rw [breakAt?_cons]
    split
    · rename_i hstart
      constructor
      · rintro ⟨⟩
        exact ⟨rfl, isFirst_nil hstart⟩
      · rintro ⟨hsplit, hfirst⟩
        have hfront := (isFirst_nil hstart).unique hfirst
        rw [← hfront] at hsplit ⊢
        rw [hsplit]
        rfl
    · rename_i hstart
      rw [Option.map_eq_some_iff]
      constructor
      · rintro ⟨⟨a, b⟩, hbreak, heq⟩
        cases heq
        obtain ⟨rfl, hfirst⟩ := ih.mp hbreak
        exact ⟨rfl, (isFirst_cons hstart).mpr hfirst⟩
      · rintro ⟨hsplit, hfirst⟩
        cases front with
        | nil => exact absurd hfirst.occurs hstart
        | cons d front =>
          rw [List.cons_append] at hsplit
          obtain ⟨rfl, htail⟩ := List.cons.inj hsplit
          have hbreak := ih.mpr ⟨htail, (isFirst_cons hstart).mp hfirst⟩
          exact ⟨(front, rest), hbreak, rfl⟩

theorem IsFirst.exists_breakAt? (h : IsFirst pat front cs) :
    ∃ rest, breakAt? pat cs = some (front, rest) := by
  obtain ⟨rest, hrest⟩ := (List.prefix_append front pat).trans h.occurs
  exact ⟨rest, breakAt?_eq_some_iff.mpr ⟨hrest.symm, h⟩⟩

theorem breakAt?_eq_none_iff : breakAt? pat cs = none ↔ ¬ pat <:+: cs := by
  rw [← contains_iff, contains, Option.isSome_iff_ne_none, not_not]

/-! ## Where two texts meet -/

/-- The shorter front of a text is a front of the longer one. -/
theorem exists_of_length_le {a b c d : List Char} (h : a ++ b = c ++ d)
    (hle : a.length ≤ c.length) : ∃ e, c = a ++ e ∧ b = e ++ d := by
  rcases List.append_eq_append_iff.mp h with hsplit | ⟨e, rfl, hd⟩
  · exact hsplit
  · have he : e = [] := by
      rw [List.length_append] at hle
      exact List.eq_nil_of_length_eq_zero (by omega)
    exact ⟨[], by simp [he], by simp [hd, he]⟩

/-- An occurrence of a pattern that does not lie in `a` alone begins behind it, where `a` is
followed by a character that stands in the pattern at most at its front. -/
theorem length_le_of_occurs {x : Char} (hx : x ∉ pat.tail) {a t b : List Char}
    (ha : ¬ pat <:+: a) (h : b ++ pat <+: a ++ x :: t) : a.length ≤ b.length := by
  obtain ⟨rest, h⟩ := h
  rw [List.append_assoc] at h
  rcases append_eq_append_cons h with ⟨c, rfl, hpat⟩ | ⟨b', rfl, -⟩
  · rcases append_eq_append_cons hpat with ⟨d, rfl, -⟩ | ⟨d, rfl, -⟩
    · exact absurd ⟨b, d, List.append_assoc _ _ _⟩ ha
    · cases c with
      | nil => simp
      | cons y c => exact absurd (List.mem_append_right c List.mem_cons_self) hx
  · simp

/-! ## Replacing -/

section Replacing

variable {old new : List Char}

theorem literal_eq_none_iff (hne : old ≠ []) : literal old cs = none ↔ ¬ old <+: cs := by
  obtain ⟨o, more, rfl⟩ := List.exists_cons_of_ne_nil hne
  rw [literal, ← dropFront?_isSome_iff]
  split <;> simp_all

theorem replaceAll_cons (hne : old ≠ []) {c : Char} (h : ¬ old <+: c :: cs) :
    replaceAll old new (c :: cs) = c :: replaceAll old new cs := by
  rw [replaceAll, pieces_cons_of_none ((literal_eq_none_iff hne).mpr h)]
  rfl

theorem replaceAll_append_self (hne : old ≠ []) (cs : List Char) :
    replaceAll old new (old ++ cs) = new ++ replaceAll old new cs := by
  obtain ⟨o, more, rfl⟩ := List.exists_cons_of_ne_nil hne
  have hfound : literal (o :: more) (o :: (more ++ cs)) = some ((), more.length) := by
    rw [literal, if_pos]
    exact dropFront?_isSome_iff.mpr (List.prefix_append (o :: more) cs)
  rw [replaceAll, List.cons_append, pieces_cons_of_some hfound, List.drop_left]
  rfl

/-- **Induction along the occurrences of a pattern** that do not overlap, from the left. -/
theorem cut_induction (hne : old ≠ []) {P : List Char → Prop} (nil : P [])
    (char : ∀ c cs, ¬ old <+: c :: cs → P cs → P (c :: cs))
    (occurrence : ∀ cs, P cs → P (old ++ cs))
    (cs : List Char) : P cs := by
  induction hn : cs.length using Nat.strong_induction_on generalizing cs with
  | _ n ih =>
    by_cases h : old <+: cs
    · obtain ⟨rest, rfl⟩ := h
      have hpos := List.length_pos_iff.mpr hne
      rw [List.length_append] at hn
      exact occurrence rest (ih rest.length (by omega) rest rfl)
    · cases cs with
      | nil => exact nil
      | cons c cs => exact char c cs h (ih cs.length (by simp [← hn]) cs rfl)

theorem replaceAll_of_not_infix (h : ¬ old <:+: cs) : replaceAll old new cs = cs := by
  have hne : old ≠ [] := fun hnil => h (hnil ▸ List.nil_infix)
  induction cs with
  | nil => rfl
  | cons c cs ih =>
    rw [List.infix_cons_iff, not_or] at h
    rw [replaceAll_cons hne h.1, ih h.2]

theorem replaceAll_cons_of_not_mem (hne : old ≠ []) {x : Char} (hx : x ∉ old) (t : List Char) :
    replaceAll old new (x :: t) = x :: replaceAll old new t := by
  refine replaceAll_cons hne fun h => ?_
  obtain ⟨o, more, rfl⟩ := List.exists_cons_of_ne_nil hne
  rw [(List.cons_prefix_cons.mp h).1] at hx
  exact hx List.mem_cons_self

/-- A text with no occurrence in it is passed over, and so is a character that does not stand in the
pattern. -/
theorem replaceAll_append_cons {x : Char} (hx : x ∉ old) {a : List Char} (ha : ¬ old <:+: a)
    (t : List Char) : replaceAll old new (a ++ x :: t) = a ++ x :: replaceAll old new t := by
  have hne : old ≠ [] := fun hnil => ha (hnil ▸ List.nil_infix)
  have hstart : ∀ b, ¬ old <:+: b → ¬ old <+: b ++ x :: t := by
    rintro b hb ⟨c, hc⟩
    obtain ⟨d, rfl, -⟩ := exists_of_not_mem hx hc
    exact hb (List.prefix_append old d).isInfix
  induction a with
  | nil => exact replaceAll_cons_of_not_mem hne hx t
  | cons c a ih =>
    have hc := hstart (c :: a) ha
    rw [List.infix_cons_iff, not_or] at ha
    rw [List.cons_append] at hc
    rw [List.cons_append, replaceAll_cons hne hc, ih ha.2, List.cons_append]

end Replacing

end ArchDiagram.Text
