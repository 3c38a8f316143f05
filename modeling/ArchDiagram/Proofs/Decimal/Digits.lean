import ArchDiagram.Decimal.Digits
import Mathlib.Algebra.Group.Nat.Defs
import Mathlib.Data.List.Induction

/-!
# Reading back the digits of a number

* `value_digits`: the digits of a number denote it.
* `digitsOnto_value`: **digits without a leading zero are those of the number they denote**.
* `head?_digitsOnto`, `length_digitsOnto_le`: there is no leading zero, and there are not many.
* `isDigit_of_mem_chars`: its text consists of ASCII digits.
* `read?_chars`: **its text is read as this number**.
* `read?_eq_some_iff`: **a text is read if and only if it consists of digits**, as what they denote.
-/

namespace ArchDiagram.Decimal

/-- The digits of `n` in front of others count before them. -/
theorem value_digitsOnto (rest : List Nat) (n : Nat) :
    value (digitsOnto rest n) = rest.foldl (fun m d => 10 * m + d) n := by
  fun_induction digitsOnto rest n with
  | case1 rest n hn => simp [value]
  | case2 rest n hn ih =>
    rw [ih, List.foldl_cons, Nat.div_add_mod]

theorem value_digits (n : Nat) : value (digits n) = n :=
  value_digitsOnto [] n

theorem lt_ten_of_mem_digitsOnto {rest : List Nat} (hrest : ∀ d ∈ rest, d < 10) (n : Nat) :
    ∀ d ∈ digitsOnto rest n, d < 10 := by
  fun_induction digitsOnto rest n with
  | case1 rest n hn =>
    intro d hd
    rcases List.mem_cons.mp hd with rfl | hd
    · exact hn
    · exact hrest d hd
  | case2 rest n hn ih =>
    refine ih fun d hd => ?_
    rcases List.mem_cons.mp hd with rfl | hd
    · exact Nat.mod_lt n (by decide)
    · exact hrest d hd

theorem digitsOnto_ne_nil (rest : List Nat) (n : Nat) : digitsOnto rest n ≠ [] := by
  fun_induction digitsOnto rest n with
  | case1 rest n hn => exact List.cons_ne_nil _ _
  | case2 rest n hn ih => exact ih

/-- There is no leading zero. -/
theorem head?_digitsOnto {n : Nat} (hn : n ≠ 0) (rest : List Nat) :
    (digitsOnto rest n).head? ≠ some 0 := by
  fun_induction digitsOnto rest n with
  | case1 rest n hlt =>
    intro h
    exact hn (Option.some.inj h)
  | case2 rest n hlt ih => exact ih (by omega)

/-- A number below a power of ten has no more digits than its exponent. -/
theorem length_digitsOnto_le {n k : Nat} (hn : n < 10 ^ (k + 1)) (rest : List Nat) :
    (digitsOnto rest n).length ≤ rest.length + (k + 1) := by
  induction k generalizing n rest with
  | zero =>
    rw [digitsOnto, if_pos (by simpa using hn)]
    exact Nat.le_refl _
  | succ k ih =>
    rw [digitsOnto]
    split
    · rw [List.length_cons]
      omega
    · have hdiv : n / 10 < 10 ^ (k + 1) := by
        rw [Nat.pow_succ] at hn
        omega
      have hlength := ih hdiv (n % 10 :: rest)
      rw [List.length_cons] at hlength
      omega

theorem le_foldl (ds : List Nat) (m : Nat) : m ≤ ds.foldl (fun m d => 10 * m + d) m := by
  induction ds generalizing m with
  | nil => exact Nat.le_refl m
  | cons d ds ih =>
    have h := ih (10 * m + d)
    rw [List.foldl_cons]
    omega

theorem value_append_singleton (ds : List Nat) (d : Nat) :
    value (ds ++ [d]) = 10 * value ds + d := by
  simp [value]

/-- Digits of which the first is not zero denote a number that is not. -/
theorem value_pos {ds : List Nat} (hne : ds ≠ []) (hhead : ds.head? ≠ some 0) : 0 < value ds := by
  obtain ⟨d, ds, rfl⟩ := List.exists_cons_of_ne_nil hne
  have hd : d ≠ 0 := by simpa using hhead
  have hle := le_foldl ds (10 * 0 + d)
  rw [value, List.foldl_cons]
  omega

/-- **Digits without a leading zero are those of the number they denote.** -/
theorem digitsOnto_value {ds : List Nat} (hne : ds ≠ []) (hlt : ∀ d ∈ ds, d < 10)
    (hhead : ds = [0] ∨ ds.head? ≠ some 0) (rest : List Nat) :
    digitsOnto rest (value ds) = ds ++ rest := by
  -- on the last digit, as it is the one that is written first
  induction ds using List.reverseRecOn generalizing rest with
  | nil => exact absurd rfl hne
  | append_singleton ds d ih =>
    rw [List.forall_mem_append, List.forall_mem_singleton] at hlt
    rw [value_append_singleton]
    by_cases hds : ds = []
    · subst hds
      rw [digitsOnto, if_pos (by simpa [value] using hlt.2)]
      simp [value]
    · have hfront : ds.head? ≠ some 0 := by
        obtain ⟨a, t, rfl⟩ := List.exists_cons_of_ne_nil hds
        simpa using hhead
      have hpos := value_pos hds hfront
      have hmod : (10 * value ds + d) % 10 = d := by omega
      have hdiv : (10 * value ds + d) / 10 = value ds := by omega
      rw [digitsOnto, if_neg (by omega), hmod, hdiv, ih hds hlt.1 (Or.inr hfront)]
      simp

theorem chars_ne_nil (n : Nat) : chars n ≠ [] := by
  rw [chars, Ne, List.map_eq_nil_iff]
  exact digitsOnto_ne_nil [] n

theorem digitOf?_digitChar : ∀ d < 10, digitOf? (digitChar d) = some d := by
  decide

/-- The text of a number consists of ASCII digits. -/
theorem isDigit_of_mem_chars {n : Nat} {c : Char} (hc : c ∈ chars n) : c.isDigit = true := by
  obtain ⟨d, hd, rfl⟩ := List.mem_map.mp hc
  have hten : ∀ d < 10, (digitChar d).isDigit = true := by decide
  exact hten d (lt_ten_of_mem_digitsOnto (by simp) n d hd)

theorem mapM_digitOf? {ds : List Nat} (h : ∀ d ∈ ds, d < 10) :
    (ds.map digitChar).mapM digitOf? = some ds := by
  induction ds with
  | nil => rfl
  | cons d ds ih =>
    have hd := digitOf?_digitChar d (h d List.mem_cons_self)
    have hds := ih fun e he => h e (List.mem_cons_of_mem _ he)
    rw [List.map_cons, List.mapM_cons, hd, hds]
    rfl

/-- **The text of a number is read as this number.** -/
theorem read?_chars (n : Nat) : read? (chars n) = some n := by
  have hempty : ¬ (chars n).isEmpty = true := by
    rw [List.isEmpty_iff]
    exact chars_ne_nil n
  have hnone : ∀ d ∈ ([] : List Nat), d < 10 := by simp
  have hdigits := mapM_digitOf? (lt_ten_of_mem_digitsOnto hnone n)
  rw [read?, if_neg hempty, chars]
  exact (congrArg (Option.map value) hdigits).trans (congrArg some (value_digits n))

theorem chars_injective : Function.Injective chars := by
  intro m n h
  have hread := read?_chars m
  rw [h, read?_chars] at hread
  exact (Option.some.inj hread).symm

theorem digitOf?_eq_some_iff {c : Char} {d : Nat} :
    digitOf? c = some d ↔ d < 10 ∧ c = digitChar d := by
  constructor
  · intro h
    rw [digitOf?] at h
    split at h
    · rename_i hc
      obtain ⟨hlow, hhigh⟩ : 48 ≤ c.toNat ∧ c.toNat ≤ 57 := hc
      cases h
      refine ⟨by omega, ?_⟩
      rw [digitChar, Nat.add_sub_cancel' hlow, Char.ofNat_toNat]
    · cases h
  · rintro ⟨hd, rfl⟩
    exact digitOf?_digitChar d hd

/-- A text consists of digits if and only if it is what is written for them. -/
theorem mapM_digitOf?_eq_some_iff {cs : List Char} {ds : List Nat} :
    cs.mapM digitOf? = some ds ↔ (∀ d ∈ ds, d < 10) ∧ cs = ds.map digitChar := by
  constructor
  · intro h
    induction cs generalizing ds with
    | nil =>
      cases h
      simp
    | cons c cs ih =>
      simp only [List.mapM_cons, Option.bind_eq_bind, Option.bind_eq_some_iff, Option.pure_def,
        Option.some.injEq] at h
      obtain ⟨d, hd, ds', hds', rfl⟩ := h
      obtain ⟨hlt, hc⟩ := digitOf?_eq_some_iff.mp hd
      obtain ⟨hall, hcs⟩ := ih hds'
      exact ⟨List.forall_mem_cons.mpr ⟨hlt, hall⟩, by rw [List.map_cons, ← hc, ← hcs]⟩
  · rintro ⟨hall, rfl⟩
    exact mapM_digitOf? hall

/-- **A text is read if and only if it consists of one or more digits**, as the number that they
denote. -/
theorem read?_eq_some_iff {cs : List Char} {n : Nat} : read? cs = some n ↔
    ∃ ds, ds ≠ [] ∧ (∀ d ∈ ds, d < 10) ∧ cs = ds.map digitChar ∧ value ds = n := by
  rw [read?]
  by_cases hcs : cs = []
  · subst hcs
    simp
  · rw [if_neg (by simpa using hcs), Option.map_eq_some_iff]
    constructor
    · rintro ⟨ds, hds, hn⟩
      obtain ⟨hall, rfl⟩ := mapM_digitOf?_eq_some_iff.mp hds
      exact ⟨ds, by simpa using hcs, hall, rfl, hn⟩
    · rintro ⟨ds, -, hall, rfl, hn⟩
      exact ⟨ds, mapM_digitOf? hall, hn⟩

end ArchDiagram.Decimal
