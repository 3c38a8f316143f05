import ArchDiagram.Text.Blank
import ArchDiagram.Text.Digit
import ArchDiagram.Text.Lowercase
import Mathlib.Data.List.Forall2
import Mathlib.Data.List.Induction

/-!
# Texts in lower case

The lowercase of a text is made character by character but for one letter: a capital sigma at the
end of a word becomes the final form of the small one.  Which ends of words there are is left open
here, `IsLowercase` admits either form for every capital sigma, so that what is proved of every
lowercase of a text holds whatever the rule for the ends of words is.

The letters that have cases lie in a few blocks (`caseBlocks`).  A character outside of them, such as
a digit, a blank or a hyphen, is its own lowercase and that of no other character.

* `lowerChar_of_uncased`, `eq_of_mem_lowerChar`: characters without case.
* `exists_of_lowercase_append`: **the end of a lowercase that has no case is the end of the text**.
* `IsLowercase.resembles`: the lowercases of a text differ in the forms of a sigma only.
-/

namespace ArchDiagram.Text

/-! ## Tables of characters -/

theorem inRanges_iff {table : List (Nat × Nat)} {n : Nat} :
    inRanges table n = true ↔ ∃ r ∈ table, r.1 ≤ n ∧ n ≤ r.2 := by
  simp [inRanges]

/-- Tables that have no number in common. -/
theorem inRanges_eq_false {table table' : List (Nat × Nat)}
    (hapart : ∀ r ∈ table, ∀ r' ∈ table', r.2 < r'.1 ∨ r'.2 < r.1) {n : Nat}
    (h : inRanges table n = true) : inRanges table' n = false := by
  obtain ⟨r, hr, hfirst, hlast⟩ := inRanges_iff.mp h
  rw [← Bool.not_eq_true, inRanges_iff]
  rintro ⟨r', hr', hfirst', hlast'⟩
  have := hapart r hr r' hr'
  omega

def blanks : List (Nat × Nat) :=
  [(9, 13), (32, 32), (0x85, 0x85), (0xA0, 0xA0), (0x1680, 0x1680), (0x2000, 0x200A),
   (0x2028, 0x2029), (0x202F, 0x202F), (0x205F, 0x205F), (0x3000, 0x3000)]

theorem isBlank_eq (c : Char) : isBlank c = inRanges blanks c.toNat := by
  rw [Bool.eq_iff_iff]
  simp [isBlank, inRanges, blanks]
  omega

theorem isBlank_of_isDecimalDigit {c : Char} (h : isDecimalDigit c = true) : isBlank c = false := by
  rw [isBlank_eq]
  exact inRanges_eq_false (by decide +kernel) h

/-! ## Characters without case -/

/-- Blocks in which the characters lie that have a lowercase other than themselves, and these
lowercases. -/
def caseBlocks : List (Nat × Nat) :=
  [(0x41, 0x7A), (0xC0, 0x586), (0x10A0, 0x13FD), (0x1C89, 0x1FFC), (0x2126, 0x2D2D),
   (0xA640, 0xA7F6), (0xAB53, 0xABBF), (0xFF21, 0x1044F), (0x104B0, 0x10CF2), (0x10D50, 0x10D85),
   (0x118A0, 0x118DF), (0x16E40, 0x16ED3), (0x1E900, 0x1E943)]

/-- A character outside of the blocks of letters with cases. -/
def IsUncased (c : Char) : Prop :=
  inRanges caseBlocks c.toNat = false

instance : DecidablePred IsUncased := fun _ => inferInstanceAs (Decidable (_ = false))

theorem isUncased_of_isDecimalDigit {c : Char} (h : isDecimalDigit c = true) : IsUncased c :=
  inRanges_eq_false (by decide +kernel) h

theorem isUncased_of_isBlank {c : Char} (h : isBlank c = true) : IsUncased c := by
  rw [isBlank_eq] at h
  exact inRanges_eq_false (by decide +kernel) h

theorem isUncased_hyphen : IsUncased '-' := by
  decide

/-- The characters of a run of letters and their lowercases lie in a block each, and the lowercases
are characters. -/
theorem caseRuns_blocks : ∀ r ∈ caseRuns,
    (∃ b ∈ caseBlocks, b.1 ≤ r.first ∧ r.last ≤ b.2) ∧
    (∃ b ∈ caseBlocks, b.1 ≤ r.target ∧ r.target + (r.last - r.first) ≤ b.2) ∧
    (r.target + (r.last - r.first) < 0xD800 ∨
      0xE000 ≤ r.target ∧ r.target + (r.last - r.first) < 0x110000) := by
  decide +kernel

theorem toNat_ofNat_of_valid {n : Nat} (h : n < 0xD800 ∨ 0xE000 ≤ n ∧ n < 0x110000) :
    (Char.ofNat n).toNat = n := by
  have hvalid : n.isValidChar := by
    unfold Nat.isValidChar
    omega
  rw [Char.ofNat, dif_pos hvalid]
  rfl

/-- The lowercase of a character is the character itself, or it comes from a table. -/
theorem lowerChar_cases (c : Char) : lowerChar c = [c] ∨
    (0x41 ≤ c.toNat ∧ c.toNat ≤ 0x5A ∧ lowerChar c = [Char.ofNat (c.toNat + 32)]) ∨
    (c.toNat = 0x130 ∧ lowerChar c = ['i', Char.ofNat 0x307]) ∨
    ∃ r ∈ caseRuns, r.covers c.toNat = true ∧
      lowerChar c = [Char.ofNat (r.target + (c.toNat - r.first))] := by
  by_cases hascii : c.toNat < 0x80
  · by_cases hcase : 'A' ≤ c ∧ c ≤ 'Z'
    · exact Or.inr (Or.inl ⟨hcase.1, hcase.2, by simp [lowerChar, hascii, hcase]⟩)
    · exact Or.inl (by simp [lowerChar, hascii, hcase])
  by_cases hdotted : c.toNat = 0x130
  · exact Or.inr (Or.inr (Or.inl ⟨hdotted, by simp [lowerChar, hdotted]⟩))
  cases hrun : caseRuns.find? (·.covers c.toNat) with
  | none => exact Or.inl (by simp [lowerChar, hascii, hdotted, hrun])
  | some r =>
    have hcovers := List.find?_some hrun
    exact Or.inr (Or.inr (Or.inr ⟨r, List.mem_of_find?_eq_some hrun, hcovers,
      by simp [lowerChar, hascii, hdotted, hrun]⟩))

theorem lowerChar_ne_nil (c : Char) : lowerChar c ≠ [] := by
  rcases lowerChar_cases c with h | ⟨-, -, h⟩ | ⟨-, h⟩ | ⟨r, -, -, h⟩ <;> simp [h]

/-- A character with a lowercase other than itself lies in one of the blocks, and so does its
lowercase. -/
theorem lowerChar_cased (c : Char) : lowerChar c = [c] ∨
    ¬ IsUncased c ∧ ∀ x ∈ lowerChar c, ¬ IsUncased x := by
  have hblock : ∀ {x : Char}, (∃ b ∈ caseBlocks, b.1 ≤ x.toNat ∧ x.toNat ≤ b.2) →
      ¬ IsUncased x := by
    intro x h
    rw [IsUncased, Bool.not_eq_false, inRanges_iff]
    exact h
  rcases lowerChar_cases c with h | ⟨hfirst, hlast, h⟩ | ⟨hdotted, h⟩ | ⟨r, hr, hcovers, h⟩
  · exact Or.inl h
  · refine Or.inr ⟨hblock ⟨(0x41, 0x7A), by decide, hfirst, by omega⟩, ?_⟩
    have hnat := toNat_ofNat_of_valid (n := c.toNat + 32) (by omega)
    rw [h, List.forall_mem_singleton]
    exact hblock ⟨(0x41, 0x7A), by decide, by omega, by omega⟩
  · refine Or.inr ⟨hblock ⟨(0xC0, 0x586), by decide, by omega, by omega⟩, ?_⟩
    rw [h, List.forall_mem_cons, List.forall_mem_singleton]
    exact ⟨by decide, by decide⟩
  · obtain ⟨⟨b, hb, hfirst, hlast⟩, ⟨t, ht, htarget, hend⟩, hvalid⟩ := caseRuns_blocks r hr
    simp only [CaseRun.covers, Bool.and_eq_true, decide_eq_true_eq] at hcovers
    refine Or.inr ⟨hblock ⟨b, hb, by omega, by omega⟩, ?_⟩
    have hnat := toNat_ofNat_of_valid (n := r.target + (c.toNat - r.first)) (by omega)
    rw [h, List.forall_mem_singleton]
    exact hblock ⟨t, ht, by omega, by omega⟩

theorem lowerChar_of_uncased {c : Char} (h : IsUncased c) : lowerChar c = [c] := by
  rcases lowerChar_cased c with heq | ⟨hcased, -⟩
  · exact heq
  · exact absurd h hcased

/-- A character without case is the lowercase of no other one. -/
theorem eq_of_mem_lowerChar {c x : Char} (hx : IsUncased x) (hm : x ∈ lowerChar c) : c = x := by
  rcases lowerChar_cased c with heq | ⟨-, hcased⟩
  · rw [heq, List.mem_singleton] at hm
    exact hm.symm
  · exact absurd hx (hcased x hm)

/-! ## The end of a lowercase -/

theorem lowercase_append (a b : List Char) : lowercase (a ++ b) = lowercase a ++ lowercase b :=
  List.flatMap_append

theorem lowercase_singleton (c : Char) : lowercase [c] = lowerChar c :=
  List.append_nil _

theorem lowercase_of_uncased {cs : List Char} (h : ∀ c ∈ cs, IsUncased c) : lowercase cs = cs := by
  induction cs with
  | nil => rfl
  | cons c cs ih =>
    rw [lowercase, List.flatMap_cons, lowerChar_of_uncased (h c List.mem_cons_self)]
    exact congrArg (c :: ·) (ih fun x hx => h x (List.mem_cons_of_mem c hx))

/-- **The end of a lowercase that has no case is the end of the text.** -/
theorem exists_of_lowercase_append {cs a b : List Char} (h : lowercase cs = a ++ b)
    (hb : ∀ c ∈ b, IsUncased c) : ∃ front, cs = front ++ b ∧ lowercase front = a := by
  induction b using List.reverseRecOn generalizing cs with
  | nil => exact ⟨cs, by simp, by simpa using h⟩
  | append_singleton b x ih =>
    rcases List.eq_nil_or_concat cs with rfl | ⟨cs, c, rfl⟩
    · simp [lowercase] at h
    · rw [List.concat_eq_append, lowercase_append, lowercase_singleton, ← List.append_assoc] at h
      have hlast := congrArg List.getLast? h
      rw [List.getLast?_append_of_ne_nil _ (lowerChar_ne_nil c), List.getLast?_concat] at hlast
      -- the last character has no case, so it is its own lowercase
      have hx := hb x (by simp)
      obtain rfl : c = x := eq_of_mem_lowerChar hx (List.mem_of_getLast? hlast)
      rw [lowerChar_of_uncased hx] at h
      obtain ⟨front, rfl, hfront⟩ := ih (List.append_cancel_right h)
        fun y hy => hb y (List.mem_append_left _ hy)
      exact ⟨front, by simp, hfront⟩

/-! ## The forms of a sigma -/

/-- A text in lower case, where a capital sigma has become either form of the small one. -/
inductive IsLowercase : List Char → List Char → Prop
  | nil : IsLowercase [] []
  | cons (c : Char) {cs ls : List Char} : IsLowercase cs ls →
      IsLowercase (c :: cs) (lowerChar c ++ ls)
  | finalSigma {cs ls : List Char} : IsLowercase cs ls → IsLowercase ('Σ' :: cs) ('ς' :: ls)

theorem isLowercase_lowercase (cs : List Char) : IsLowercase cs (lowercase cs) := by
  induction cs with
  | nil => exact .nil
  | cons c cs ih => exact .cons c ih

theorem IsLowercase.append {a b x y : List Char} (ha : IsLowercase a x) (hb : IsLowercase b y) :
    IsLowercase (a ++ b) (x ++ y) := by
  induction ha with
  | nil => exact hb
  | cons c _ ih =>
    rw [List.cons_append, List.append_assoc]
    exact .cons c ih
  | finalSigma _ ih => exact .finalSigma ih

/-- A character is another one, or that one is the small sigma and it is the final form. -/
def Resembles (x y : Char) : Prop :=
  y = x ∨ x = 'σ' ∧ y = 'ς'

/-- **The lowercases of a text differ in the forms of a sigma only.** -/
theorem IsLowercase.resembles {cs ls : List Char} (h : IsLowercase cs ls) :
    List.Forall₂ Resembles (lowercase cs) ls := by
  induction h with
  | nil => exact .nil
  | cons c _ ih =>
    have hsame : List.Forall₂ Resembles (lowerChar c) (lowerChar c) :=
      List.forall₂_same.mpr fun _ _ => Or.inl rfl
    exact List.rel_append hsame ih
  | finalSigma _ ih =>
    have hsigma : lowerChar 'Σ' = ['σ'] := by
      decide +kernel
    rw [lowercase, List.flatMap_cons, hsigma]
    exact .cons (Or.inr ⟨rfl, rfl⟩) ih

theorem eq_of_resembles {a b : List Char} (h : List.Forall₂ Resembles a b)
    (hfree : 'σ' ∉ a ∨ 'ς' ∉ b) : a = b := by
  induction h with
  | nil => rfl
  | cons hxy _ ih =>
    rcases hxy with rfl | ⟨rfl, rfl⟩
    · have hrest := hfree.imp (fun ha hm => ha (List.mem_cons_of_mem _ hm))
        fun hb hm => hb (List.mem_cons_of_mem _ hm)
      rw [ih hrest]
    · simp at hfree

/-- What a text without sigmas begins does not depend on the forms of a sigma. -/
theorem prefix_iff_of_resembles {front a b : List Char} (h : List.Forall₂ Resembles a b)
    (hsmall : 'σ' ∉ front) (hfinal : 'ς' ∉ front) : front <+: a ↔ front <+: b := by
  have htake := List.forall₂_take front.length h
  rw [List.prefix_iff_eq_take, List.prefix_iff_eq_take]
  constructor
  · intro hfront
    rw [← hfront] at htake
    exact eq_of_resembles htake (Or.inl hsmall)
  · intro hfront
    rw [← hfront] at htake
    exact (eq_of_resembles htake (Or.inr hfinal)).symm

/-- Nor does where it stands. -/
theorem infix_iff_of_resembles {mid a b : List Char} (h : List.Forall₂ Resembles a b)
    (hsmall : 'σ' ∉ mid) (hfinal : 'ς' ∉ mid) : mid <:+: a ↔ mid <:+: b := by
  induction h with
  | nil => rfl
  | cons hxy hab ih =>
    rw [List.infix_cons_iff, List.infix_cons_iff, ih,
      prefix_iff_of_resembles (.cons hxy hab) hsmall hfinal]

end ArchDiagram.Text
