import ArchDiagram.Json.Number
import ArchDiagram.Proofs.Decimal.Digits
import Mathlib.Tactic.MkIffOfInductiveProp

/-!
# Number literals read back

A literal is written digit by digit, and the reader takes digits as long as there are any.  What
stands behind a run of digits therefore must not begin with one: the point, the mark of an exponent
or nothing at all (`leadingDigits_append`).

* `Number.IsWritten`: literals that can be written.
* `Number.ofChars?_chars`: **the text of a literal is read as this literal**.
* `Number.natural?_ofNat`, `Number.float?_ofNat`: **the literal of a natural number denotes it** and
  is in range.
* `Number.natural?_eq_some_iff`: no other literal that can be written denotes it.
-/

namespace ArchDiagram.Number

open Decimal

/-- A literal as it may be written: digits before the point without a leading zero, and digits after
the mark of an exponent. -/
@[mk_iff]
structure IsWritten (n : Number) : Prop where
  whole_ne : n.whole ≠ []
  whole_lt : ∀ d ∈ n.whole, d < 10
  head : n.whole = [0] ∨ n.whole.head? ≠ some 0
  fraction_lt : ∀ d ∈ n.fraction, d < 10
  exponent_ne : ∀ e ∈ n.exponent, e.2 ≠ []
  exponent_lt : ∀ e ∈ n.exponent, ∀ d ∈ e.2, d < 10

instance : DecidablePred IsWritten :=
  fun n => decidable_of_iff' _ (isWritten_iff n)

/-! ## Digits -/

theorem leadingDigits_cons {d : Nat} (hd : d < 10) (cs : List Char) :
    leadingDigits (digitChar d :: cs) = (d :: (leadingDigits cs).1, (leadingDigits cs).2) := by
  simp [leadingDigits, digitOf?_digitChar d hd]

/-- The digits at the start of a text are those that are written there, up to a character that is no
digit. -/
theorem leadingDigits_append {ds : List Nat} (hds : ∀ d ∈ ds, d < 10) {rest : List Char}
    (hrest : ∀ c ∈ rest.head?, digitOf? c = none) :
    leadingDigits (ds.map digitChar ++ rest) = (ds, rest) := by
  induction ds with
  | nil =>
    cases rest with
    | nil => rfl
    | cons c rest =>
      have hc : digitOf? c = none := hrest c rfl
      simp [leadingDigits, hc]
  | cons d ds ih =>
    have ih := ih fun e he => hds e (List.mem_cons_of_mem _ he)
    rw [List.map_cons, List.cons_append, leadingDigits_cons (hds d List.mem_cons_self), ih]

theorem leadingDigits_digits {ds : List Nat} (hds : ∀ d ∈ ds, d < 10) :
    leadingDigits (ds.map digitChar) = (ds, []) := by
  have hnil : ∀ c ∈ ([] : List Char).head?, digitOf? c = none := nofun
  have h := leadingDigits_append hds hnil
  rwa [List.append_nil] at h

theorem digitChar_ne_minus : ∀ d < 10, digitChar d ≠ '-' := by
  decide

/-! ## Literals -/

theorem exponentOf?_digits {neg : Bool} {ds : List Nat} (hne : ds ≠ []) (hds : ∀ d ∈ ds, d < 10) :
    exponentOf? ((if neg then '-' else '+') :: ds.map digitChar) = some (neg, ds) := by
  have hdigits := leadingDigits_digits hds
  obtain ⟨d, ds, rfl⟩ := List.exists_cons_of_ne_nil hne
  rw [List.map_cons] at hdigits
  cases neg <;> simp [exponentOf?, hdigits]

def exponentChars : Option (Bool × List Nat) → List Char
  | none => []
  | some (neg, ds) => 'e' :: (if neg then '-' else '+') :: ds.map digitChar

/-- What is written behind the digits before the point. -/
def tailChars (fraction : List Nat) (exponent : Option (Bool × List Nat)) : List Char :=
  (if fraction.isEmpty then [] else '.' :: fraction.map digitChar) ++ exponentChars exponent

theorem chars_eq (n : Number) : n.chars = (if n.negative then ['-'] else []) ++
    (n.whole.map digitChar ++ tailChars n.fraction n.exponent) := by
  rcases n with ⟨neg, whole, fraction, _ | e⟩ <;> simp [chars, tailChars, exponentChars]

theorem head?_exponentChars (e : Option (Bool × List Nat)) :
    ∀ c ∈ (exponentChars e).head?, digitOf? c = none := by
  cases e with
  | none => simp [exponentChars]
  | some e => simp [exponentChars]; decide

theorem head?_tailChars (fraction : List Nat) (e : Option (Bool × List Nat)) :
    ∀ c ∈ (tailChars fraction e).head?, digitOf? c = none := by
  cases fraction with
  | nil => exact head?_exponentChars e
  | cons f fs => simp [tailChars]; decide

/-- **The text of a literal is read as this literal.** -/
theorem ofChars?_chars {n : Number} (h : n.IsWritten) : ofChars? n.chars = some n := by
  rcases n with ⟨neg, whole, fraction, exponent⟩
  have hwhole := leadingDigits_append h.whole_lt (head?_tailChars fraction exponent)
  have hfraction := leadingDigits_append h.fraction_lt (head?_exponentChars exponent)
  have hexponent : ∀ e ∈ exponent,
      exponentOf? ((if e.1 then '-' else '+') :: e.2.map digitChar) = some e :=
    fun e he => exponentOf?_digits (h.exponent_ne e he) (h.exponent_lt e he)
  obtain ⟨d, ds, rfl⟩ := List.exists_cons_of_ne_nil h.whole_ne
  have hminus : digitChar d ≠ '-' := digitChar_ne_minus d (h.whole_lt d List.mem_cons_self)
  have hzero : ds = [] ∨ ∃ k, d = k + 1 := by
    refine h.head.imp (fun h0 => (List.cons.inj h0).2) fun h0 => ?_
    exact Nat.exists_eq_succ_of_ne_zero fun hd => h0 (congrArg some hd)
  rw [chars_eq]
  dsimp only at hwhole hfraction ⊢
  rw [List.map_cons, List.cons_append] at hwhole ⊢
  cases neg
  all_goals
    simp only [ofChars?, hwhole, if_true, if_false, List.cons_append, List.nil_append,
      Bool.false_eq_true]
    -- one digit or more before the point, with a fraction or none, with an exponent or none
    rcases hzero with rfl | ⟨k, rfl⟩
    all_goals
      rcases fraction with _ | ⟨f, fs⟩
      all_goals
        rcases exponent with _ | e
        all_goals simp_all [tailChars, exponentChars]

theorem mem_chars {n : Number} (h : n.IsWritten) {c : Char} (hc : c ∈ n.chars) :
    (∃ d < 10, c = digitChar d) ∨ c ∈ ['-', '+', '.', 'e'] := by
  have hdigits : ∀ {ds : List Nat}, (∀ d ∈ ds, d < 10) → c ∈ ds.map digitChar →
      (∃ d < 10, c = digitChar d) ∨ c ∈ ['-', '+', '.', 'e'] := by
    intro ds hds hc
    obtain ⟨d, hd, rfl⟩ := List.mem_map.mp hc
    exact Or.inl ⟨d, hds d hd, rfl⟩
  rw [chars_eq, tailChars] at hc
  rcases List.mem_append.mp hc with hc | hc
  · split at hc <;> simp_all
  rcases List.mem_append.mp hc with hc | hc
  · exact hdigits h.whole_lt hc
  rcases List.mem_append.mp hc with hc | hc
  · split at hc
    · cases hc
    · rcases List.mem_cons.mp hc with rfl | hc
      · simp
      · exact hdigits h.fraction_lt hc
  · rcases he : n.exponent with _ | e
    · rw [he] at hc
      cases hc
    · rw [he] at hc
      rcases List.mem_cons.mp hc with rfl | hc
      · simp
      rcases List.mem_cons.mp hc with rfl | hc
      · cases e.1 <;> simp
      · exact hdigits (h.exponent_lt e he) hc

/-! ## Natural numbers -/

theorem isWritten_ofNat (n : Nat) : (ofNat n).IsWritten where
  whole_ne := digitsOnto_ne_nil [] n
  whole_lt := lt_ten_of_mem_digitsOnto (by simp) n
  head := by
    by_cases hn : n = 0
    · subst hn
      left
      show digitsOnto [] 0 = [0]
      rw [digitsOnto, if_pos (by decide)]
    · exact Or.inr (head?_digitsOnto hn [])
  fraction_lt := by simp [ofNat]
  exponent_ne := by simp [ofNat]
  exponent_lt := by simp [ofNat]

/-- **The literal of a natural number denotes it**, where it is asked for within 64 bits. -/
theorem natural?_ofNat {n bound : Nat} (hn : n < bound) (hbound : bound ≤ twoTo 64) :
    (ofNat n).natural? bound = some n := by
  have htwo : twoTo 64 = 18446744073709551616 := rfl
  have hlength : (digits n).length ≤ 20 := by
    have h := length_digitsOnto_le (n := n) (k := 19) (by omega) []
    rwa [List.length_nil, Nat.zero_add] at h
  have hvalue : value (ofNat n).whole = n := value_digits n
  have hplain : ¬ ((ofNat n).negative ∨ (ofNat n).fraction ≠ [] ∨ (ofNat n).exponent ≠ none ∨
      20 < (ofNat n).whole.length) := by
    simpa [ofNat] using hlength
  rw [natural?, if_neg hplain, hvalue, if_pos hn]

theorem ofNat_injective : Function.Injective ofNat := by
  intro m n h
  have hvalue : value (digits m) = value (digits n) := congrArg (fun l => value l.whole) h
  rwa [value_digits, value_digits] at hvalue

/-- **A literal denotes a natural number if and only if it is the literal of this number.** -/
theorem natural?_eq_some_iff {n : Number} (h : n.IsWritten) {bound k : Nat}
    (hbound : bound ≤ twoTo 64) : n.natural? bound = some k ↔ n = ofNat k ∧ k < bound := by
  constructor
  · intro hk
    rw [natural?] at hk
    split at hk
    · cases hk
    · rename_i hplain
      obtain ⟨hlt, hvalue⟩ : value n.whole < bound ∧ value n.whole = k := by simpa using hk
      subst hvalue
      obtain ⟨negative, whole, fraction, exponent⟩ := n
      have hdigits := digitsOnto_value h.whole_ne h.whole_lt h.head []
      simp only [not_or, Bool.not_eq_true, Decidable.not_not] at hplain
      obtain ⟨rfl, rfl, rfl, -⟩ := hplain
      refine ⟨?_, hlt⟩
      rw [ofNat, digits, hdigits, List.append_nil]
  · rintro ⟨rfl, hlt⟩
    exact natural?_ofNat hlt hbound

/-- Digits that fit into a significand are all taken. -/
theorem fill_eq {ds : List Nat} {s : Nat} (h : ds.foldl (fun m d => 10 * m + d) s < twoTo 64)
    (taken : Nat) : (fill s taken ds).2.2 = [] := by
  induction ds generalizing s taken with
  | nil => rfl
  | cons d ds ih =>
    have hle := le_foldl ds (10 * s + d)
    rw [List.foldl_cons] at h
    rw [fill, Nat.mul_comm s 10, if_pos (by omega)]
    exact ih h _

/-- The literal of a natural number is in range. -/
theorem float?_ofNat {n : Nat} (hn : n < twoTo 64) : (ofNat n).float?.isSome = true := by
  have hvalue : (digits n).foldl (fun m d => 10 * m + d) 0 = n := value_digits n
  have hleft : (fill 0 0 (ofNat n).whole).2.2 = [] := fill_eq (by rw [← hvalue] at hn; exact hn) 0
  rw [float?, Option.isSome_map, magnitude?]
  simp only [hleft]
  rfl

end ArchDiagram.Number
