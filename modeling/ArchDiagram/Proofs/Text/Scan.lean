import ArchDiagram.Proofs.Text.Line
import ArchDiagram.Text.Scan
import Mathlib.Data.List.TakeWhile

/-!
# Cutting a text, from left to right

The pieces of a text are those of its first character, or of the finding there, and those of what
follows it.  So a text in front of which nothing is found goes through as it is.

* `pieces_append`: **the pieces of a text that is passed over are its characters**.
* `append_inj_of_class`: **a text falls apart in one way** into characters of a class and a rest
  that does not begin with one.
* `contains_iff`: **a text contains a pattern if and only if it occurs somewhere**.
-/

namespace ArchDiagram.Text

/-! ## Pieces -/

section Pieces

variable {α : Type} {r : Recogniser α}

theorem piecesLoop_eq (r : Recogniser α) (skip : Nat) (done : List (Piece α)) (cs : List Char) :
    piecesLoop r skip done cs = done.reverse ++ pieces r (cs.drop skip) := by
  induction cs generalizing skip done with
  | nil => simp [pieces, piecesLoop]
  | cons c cs ih =>
    cases skip with
    | succ skip => exact ih skip done
    | zero =>
      rw [List.drop_zero, pieces, piecesLoop, piecesLoop]
      cases r (c :: cs) with
      | none => simp [ih]
      | some found => simp [ih]

theorem pieces_nil (r : Recogniser α) : pieces r [] = [] := rfl

theorem pieces_cons_of_none {c : Char} {cs : List Char} (h : r (c :: cs) = none) :
    pieces r (c :: cs) = .char c :: pieces r cs := by
  rw [pieces, piecesLoop, h]
  exact piecesLoop_eq r 0 [.char c] cs

theorem pieces_cons_of_some {c : Char} {cs : List Char} {a : α} {more : Nat}
    (h : r (c :: cs) = some (a, more)) :
    pieces r (c :: cs) = .found a :: pieces r (cs.drop more) := by
  rw [pieces, piecesLoop, h]
  exact piecesLoop_eq r more [.found a] cs

/-- **A text nowhere in which something is found is passed over.** -/
theorem pieces_append {before after : List Char}
    (h : ∀ b, b ≠ [] → b <:+ before → r (b ++ after) = none) :
    pieces r (before ++ after) = before.map .char ++ pieces r after := by
  induction before with
  | nil => rfl
  | cons c before ih =>
    have hc : r (c :: (before ++ after)) = none :=
      h (c :: before) (List.cons_ne_nil _ _) List.suffix_rfl
    rw [List.cons_append, pieces_cons_of_none hc, List.map_cons, List.cons_append]
    refine congrArg (.char c :: ·) (ih ?_)
    intro b hb hsuffix
    exact h b hb (hsuffix.trans (List.suffix_cons c before))

theorem assemble_append (write : α → List Char) (ps qs : List (Piece α)) :
    assemble write (ps ++ qs) = assemble write ps ++ assemble write qs :=
  List.flatMap_append

theorem assemble_char (write : α → List Char) (cs : List Char) :
    assemble write (cs.map .char) = cs := by
  simp [assemble, List.flatMap_map]

end Pieces

/-! ## Classes of characters -/

/-- A rest does not begin with a character of the class `p`. -/
def Stops (p : Char → Bool) (cs : List Char) : Prop :=
  ∀ c ∈ cs.head?, p c = false

theorem stops_cons {p : Char → Bool} {c : Char} {cs : List Char} :
    Stops p (c :: cs) ↔ p c = false := by
  simp [Stops]

theorem takeWhile_append_of_stops {p : Char → Bool} {a b : List Char} (ha : ∀ c ∈ a, p c = true)
    (hb : Stops p b) : (a ++ b).takeWhile p = a := by
  rw [List.takeWhile_append_of_pos ha]
  cases b with
  | nil => simp
  | cons c b => rw [List.takeWhile_cons_of_neg (by simp [stops_cons.mp hb]), List.append_nil]

/-- The longest front of characters of a class, and what is behind it. -/
theorem exists_front (p : Char → Bool) (cs : List Char) : ∃ front rest,
    cs.takeWhile p = front ∧ cs.drop front.length = rest ∧ cs = front ++ rest ∧
      (∀ c ∈ front, p c = true) ∧ Stops p rest := by
  have hsplit : cs.takeWhile p ++ cs.dropWhile p = cs := List.takeWhile_append_dropWhile
  have hdrop : (cs.takeWhile p ++ cs.dropWhile p).drop (cs.takeWhile p).length = cs.dropWhile p :=
    List.drop_left
  rw [hsplit] at hdrop
  refine ⟨cs.takeWhile p, cs.dropWhile p, rfl, hdrop, hsplit.symm,
    fun c hc => List.mem_takeWhile_imp hc, ?_⟩
  intro c hc
  have hnot := List.head?_dropWhile_not p cs
  rw [Option.mem_def.mp hc] at hnot
  exact hnot

/-- **A text falls apart in one way** into characters of a class and a rest. -/
theorem append_inj_of_class {p : Char → Bool} {a b a' b' : List Char} (h : a ++ b = a' ++ b')
    (ha : ∀ c ∈ a, p c = true) (hb : Stops p b) (ha' : ∀ c ∈ a', p c = true) (hb' : Stops p b') :
    a = a' ∧ b = b' := by
  have haa : a = a' := by
    rw [← takeWhile_append_of_stops ha hb, h, takeWhile_append_of_stops ha' hb']
  subst haa
  exact ⟨rfl, List.append_cancel_left h⟩

theorem dropFront?_eq_some_iff {front cs rest : List Char} :
    dropFront? front cs = some rest ↔ cs = front ++ rest := by
  rw [dropFront?_eq]
  constructor
  · intro h
    split at h
    · rename_i hstart
      obtain ⟨t, rfl⟩ := List.isPrefixOf_iff_prefix.mp hstart
      rw [List.drop_left, Option.some.injEq] at h
      rw [h]
    · cases h
  · rintro rfl
    rw [if_pos (List.isPrefixOf_iff_prefix.mpr (List.prefix_append front rest)), List.drop_left]

/-! ## Occurrences -/

theorem dropFront?_isSome_iff {front cs : List Char} :
    (dropFront? front cs).isSome = true ↔ front <+: cs := by
  rw [Option.isSome_iff_exists]
  simp only [dropFront?_eq_some_iff]
  exact exists_congr fun rest => eq_comm

theorem breakLoop_isSome_iff {pat front cs : List Char} :
    (breakLoop pat front cs).isSome = true ↔ pat <:+: cs := by
  induction cs generalizing front with
  | nil => cases pat <;> simp [breakLoop]
  | cons c cs ih =>
    rw [breakLoop, List.infix_cons_iff, ← dropFront?_isSome_iff]
    split
    · rename_i hstart
      simp [hstart]
    · rename_i hstart
      simp [hstart, ih]

/-- **A text contains a pattern if and only if it occurs somewhere.** -/
theorem contains_iff {pat cs : List Char} : contains pat cs = true ↔ pat <:+: cs :=
  breakLoop_isSome_iff

/-! ## Places of a character -/

theorem append_eq_append_cons {x : Char} {a b c e : List Char} (h : a ++ b = c ++ x :: e) :
    (∃ c', c = a ++ c' ∧ b = c' ++ x :: e) ∨ ∃ a', a = c ++ x :: a' ∧ e = a' ++ b := by
  rcases List.append_eq_append_iff.mp h with h | ⟨t, rfl, ht⟩
  · exact Or.inl h
  · cases t with
    | nil => exact Or.inl ⟨[], by simp, ht.symm⟩
    | cons y t =>
      obtain ⟨rfl, rfl⟩ := List.cons.inj ht
      exact Or.inr ⟨t, rfl, rfl⟩

theorem exists_of_not_mem {x : Char} {a b c e : List Char} (hx : x ∉ a)
    (h : a ++ b = c ++ x :: e) : ∃ c', c = a ++ c' ∧ b = c' ++ x :: e := by
  rcases append_eq_append_cons h with h | ⟨a', rfl, -⟩
  · exact h
  · exact absurd (List.mem_append_right c List.mem_cons_self) hx

end ArchDiagram.Text
