import ArchDiagram.Proofs.Text.Utf8
import ArchDiagram.Web.Url

/-!
# Percent-encoded octets

A percent sign and two hexadecimal digits stand for an octet, wherever they come from: encoding a
text leaves the sequences alone that already stand in it.  A text is therefore what is read of its
encoding if and only if it holds no such sequence, and otherwise something shorter is read.

* `Host.escape_induction`: texts, sequence by sequence.
* `Host.percentDecode_percentEncode`: encoding a text changes nothing of what is read of it.
* `Host.percentDecode_eq_octets_iff`: **a text without sequences is read as it is**, no other is.
-/

namespace ArchDiagram.Web.Host

open Text

/-! ## Sequences -/

def IsHex (c : Char) : Prop :=
  (Address.hexDigit? c).isSome = true

instance (c : Char) : Decidable (IsHex c) :=
  inferInstanceAs (Decidable ((Address.hexDigit? c).isSome = true))

/-- A text starts with the sequence for an octet. -/
def StartsEscape (cs : List Char) : Prop :=
  ∃ a b, IsHex a ∧ IsHex b ∧ ['%', a, b] <+: cs

/-- The sequence for an octet stands in a text. -/
def HoldsEscape (cs : List Char) : Prop :=
  ∃ a b, IsHex a ∧ IsHex b ∧ ['%', a, b] <:+: cs

theorem not_holdsEscape_nil : ¬ HoldsEscape [] := by
  rintro ⟨a, b, -, -, h⟩
  simp at h

theorem holdsEscape_cons_iff {c : Char} {cs : List Char} :
    HoldsEscape (c :: cs) ↔ StartsEscape (c :: cs) ∨ HoldsEscape cs := by
  simp only [HoldsEscape, StartsEscape, List.infix_cons_iff]
  constructor
  · rintro ⟨a, b, ha, hb, h | h⟩
    · exact Or.inl ⟨a, b, ha, hb, h⟩
    · exact Or.inr ⟨a, b, ha, hb, h⟩
  · rintro (⟨a, b, ha, hb, h⟩ | ⟨a, b, ha, hb, h⟩)
    · exact ⟨a, b, ha, hb, Or.inl h⟩
    · exact ⟨a, b, ha, hb, Or.inr h⟩

/-- A text is read sequence by sequence, and where there is none, character by character. -/
theorem escape_induction {P : List Char → Prop} (nil : P [])
    (escape : ∀ a b cs, IsHex a → IsHex b → P cs → P ('%' :: a :: b :: cs))
    (char : ∀ c cs, ¬ StartsEscape (c :: cs) → P cs → P (c :: cs)) (cs : List Char) : P cs := by
  induction hn : cs.length using Nat.strongRecOn generalizing cs with
  | ind n ih =>
    cases cs with
    | nil => exact nil
    | cons c cs =>
      by_cases h : StartsEscape (c :: cs)
      · obtain ⟨a, b, ha, hb, rest, hrest⟩ := h
        rw [← hrest] at hn ⊢
        exact escape a b rest ha hb (ih rest.length (by simp at hn; omega) rest rfl)
      · exact char c cs h (ih cs.length (by simp at hn; omega) cs rfl)

/-! ## Reading -/

theorem percentDecode_char {c : Char} {cs : List Char} (h : ¬ StartsEscape (c :: cs))
    (done : List UInt8) : percentDecode done (c :: cs) =
      percentDecode ((String.utf8EncodeChar c).reverse ++ done) cs := by
  rw [percentDecode.eq_def]
  split
  · rename_i a b rest heq
    cases heq
    split
    · rename_i x y hx hy
      exact absurd ⟨a, b, by simp [IsHex, hx], by simp [IsHex, hy], rest, rfl⟩ h
    · rfl
  · rename_i heq
    cases heq
    rfl
  · rename_i heq
    cases heq

/-- What octets were read before stays in front. -/
theorem percentDecode_eq (done : List UInt8) (cs : List Char) :
    percentDecode done cs = done.reverse ++ percentDecode [] cs := by
  induction cs using escape_induction generalizing done with
  | nil => simp [percentDecode]
  | escape a b cs ha hb ih =>
    obtain ⟨x, hx⟩ := Option.isSome_iff_exists.mp ha
    obtain ⟨y, hy⟩ := Option.isSome_iff_exists.mp hb
    simp only [percentDecode, hx, hy]
    rw [ih, ih [_]]
    simp
  | char c cs h ih =>
    rw [percentDecode_char h, percentDecode_char h, ih, ih (_ ++ [])]
    simp

theorem percentDecode_cons_escape {a b : Char} {x y : Nat} (ha : Address.hexDigit? a = some x)
    (hb : Address.hexDigit? b = some y) (cs : List Char) :
    percentDecode [] ('%' :: a :: b :: cs) = UInt8.ofNat (x * 16 + y) :: percentDecode [] cs := by
  simp only [percentDecode, ha, hb]
  rw [percentDecode_eq]
  rfl

theorem percentDecode_cons_char {c : Char} {cs : List Char} (h : ¬ StartsEscape (c :: cs)) :
    percentDecode [] (c :: cs) = String.utf8EncodeChar c ++ percentDecode [] cs := by
  rw [percentDecode_char h, percentDecode_eq]
  simp

theorem percentDecode_of_not_holdsEscape {cs : List Char} (h : ¬ HoldsEscape cs) :
    percentDecode [] cs = Utf8.octets cs := by
  induction cs with
  | nil => simp [percentDecode, Utf8.octets]
  | cons c cs ih =>
    rw [holdsEscape_cons_iff, not_or] at h
    rw [percentDecode_cons_char h.1, ih h.2, Utf8.octets_cons]

theorem length_octets_cons (c : Char) (cs : List Char) :
    (Utf8.octets cs).length < (Utf8.octets (c :: cs)).length := by
  have hsize := c.utf8Size_pos
  rw [Utf8.octets_cons, List.length_append, String.length_utf8EncodeChar]
  omega

/-- A sequence is longer than what is read of it. -/
theorem length_percentDecode_escape {a b : Char} (ha : IsHex a) (hb : IsHex b) {cs : List Char}
    (h : (percentDecode [] cs).length ≤ (Utf8.octets cs).length) :
    (percentDecode [] ('%' :: a :: b :: cs)).length <
      (Utf8.octets ('%' :: a :: b :: cs)).length := by
  obtain ⟨x, hx⟩ := Option.isSome_iff_exists.mp ha
  obtain ⟨y, hy⟩ := Option.isSome_iff_exists.mp hb
  have hb' := length_octets_cons b cs
  have ha' := length_octets_cons a (b :: cs)
  have hp := length_octets_cons '%' (a :: b :: cs)
  rw [percentDecode_cons_escape hx hy, List.length_cons]
  omega

/-- Nothing is read that is longer than the text. -/
theorem length_percentDecode_le (cs : List Char) :
    (percentDecode [] cs).length ≤ (Utf8.octets cs).length := by
  induction cs using escape_induction with
  | nil => simp [percentDecode]
  | escape a b cs ha hb ih => exact Nat.le_of_lt (length_percentDecode_escape ha hb ih)
  | char c cs h ih =>
    rw [percentDecode_cons_char h, Utf8.octets_cons, List.length_append, List.length_append]
    omega

/-- Of a text with a sequence something shorter is read. -/
theorem length_percentDecode_lt {cs : List Char} (h : HoldsEscape cs) :
    (percentDecode [] cs).length < (Utf8.octets cs).length := by
  induction cs using escape_induction with
  | nil => exact absurd h not_holdsEscape_nil
  | escape a b cs ha hb _ => exact length_percentDecode_escape ha hb (length_percentDecode_le cs)
  | char c cs hstart ih =>
    have hlt := ih ((holdsEscape_cons_iff.mp h).resolve_left hstart)
    rw [percentDecode_cons_char hstart, Utf8.octets_cons, List.length_append, List.length_append]
    omega

/-- **A text is read as it is if and only if it holds no sequence.** -/
theorem percentDecode_eq_octets_iff {cs : List Char} :
    percentDecode [] cs = Utf8.octets cs ↔ ¬ HoldsEscape cs := by
  constructor
  · intro h hholds
    have hlt := length_percentDecode_lt hholds
    rw [h] at hlt
    exact Nat.lt_irrefl _ hlt
  · exact percentDecode_of_not_holdsEscape

/-! ## Encoding -/

theorem hexDigit?_hexChar : ∀ n < 16, Address.hexDigit? (Url.hexChar n) = some n := by
  decide

theorem percentDecode_percentOctet (b : UInt8) (cs : List Char) :
    percentDecode [] (Url.percentOctet b ++ cs) = b :: percentDecode [] cs := by
  have hb := b.toNat_lt
  have hhigh := hexDigit?_hexChar (b.toNat / 16) (by omega)
  have hlow := hexDigit?_hexChar (b.toNat % 16) (by omega)
  have hsum : b.toNat / 16 * 16 + b.toNat % 16 = b.toNat := by omega
  have hoctet : UInt8.ofNat b.toNat = b := UInt8.ofNat_toNat
  simp only [Url.percentOctet, List.cons_append, List.nil_append]
  rw [percentDecode_cons_escape hhigh hlow, hsum, hoctet]

theorem percentDecode_percentOctets (bs : List UInt8) (cs : List Char) :
    percentDecode [] (bs.flatMap Url.percentOctet ++ cs) = bs ++ percentDecode [] cs := by
  induction bs with
  | nil => rfl
  | cons b bs ih =>
    rw [List.flatMap_cons, List.append_assoc, percentDecode_percentOctet, ih, List.cons_append]

/-- A class of characters that takes no part in sequences. -/
def SparesEscapes (p : Char → Bool) : Prop :=
  ∀ c, p c = true → c ≠ '%' ∧ ¬ IsHex c

variable {p : Char → Bool}

theorem percentEncode_cons (c : Char) (cs : List Char) : Url.percentEncode p (c :: cs) =
    (if p c then (String.utf8EncodeChar c).flatMap Url.percentOctet else [c]) ++
      Url.percentEncode p cs := by
  rw [Url.percentEncode, List.flatMap_cons, Url.percentEncode]

/-- A text whose encoding starts with another character than a percent sign starts with it. -/
theorem eq_cons_of_percentEncode {d : Char} (hd : d ≠ '%') {cs ds : List Char}
    (h : Url.percentEncode p cs = d :: ds) :
    ∃ cs', cs = d :: cs' ∧ Url.percentEncode p cs' = ds := by
  cases cs with
  | nil => cases h
  | cons c cs =>
    rw [percentEncode_cons] at h
    split at h
    · cases hbs : String.utf8EncodeChar c with
      | nil => exact absurd hbs String.utf8EncodeChar_ne_nil
      | cons b bs =>
        rw [hbs, List.flatMap_cons] at h
        exact absurd (List.cons.inj h).1.symm hd
    · cases h
      exact ⟨cs, rfl, rfl⟩

theorem ne_percent_of_isHex {c : Char} (h : IsHex c) : c ≠ '%' := by
  rintro rfl
  exact absurd h (by decide)

/-- A character that is not encoded starts a sequence only if it did before. -/
theorem startsEscape_of_percentEncode {c : Char} {cs : List Char}
    (h : StartsEscape (c :: Url.percentEncode p cs)) : StartsEscape (c :: cs) := by
  obtain ⟨a, b, ha, hb, rest, heq⟩ := h
  obtain ⟨hc, htail⟩ := List.cons.inj heq
  obtain ⟨ds, rfl, hds⟩ := eq_cons_of_percentEncode (ne_percent_of_isHex ha) htail.symm
  obtain ⟨es, rfl, -⟩ := eq_cons_of_percentEncode (ne_percent_of_isHex hb) hds
  exact ⟨a, b, ha, hb, es, by rw [← hc]; rfl⟩

/-- **Encoding a text changes nothing of what is read of it.** -/
theorem percentDecode_percentEncode (hp : SparesEscapes p) (cs : List Char) :
    percentDecode [] (Url.percentEncode p cs) = percentDecode [] cs := by
  induction cs using escape_induction with
  | nil => rfl
  | escape a b cs ha hb ih =>
    have hspared : ∀ {c}, c = '%' ∨ IsHex c → p c = false := by
      rintro c hc
      rw [Bool.eq_false_iff]
      exact fun h => hc.elim (hp c h).1 (hp c h).2
    obtain ⟨x, hx⟩ := Option.isSome_iff_exists.mp ha
    obtain ⟨y, hy⟩ := Option.isSome_iff_exists.mp hb
    simp only [percentEncode_cons, hspared (Or.inl rfl), hspared (Or.inr ha), hspared (Or.inr hb),
      Bool.false_eq_true, if_false, List.singleton_append]
    rw [percentDecode_cons_escape hx hy, percentDecode_cons_escape hx hy, ih]
  | char c cs h ih =>
    rw [percentEncode_cons, percentDecode_cons_char h]
    split
    · rw [percentDecode_percentOctets, ih]
    · have hstart : ¬ StartsEscape (c :: Url.percentEncode p cs) :=
        fun hc => h (startsEscape_of_percentEncode hc)
      rw [List.singleton_append, percentDecode_cons_char hstart, ih]

theorem toNat_of_isHex {c : Char} (h : IsHex c) : 0x30 ≤ c.toNat ∧ c.toNat ≤ 0x66 := by
  rw [IsHex, Address.hexDigit?] at h
  split at h
  · rename_i hdigit
    have hrange := Char.isDigit_iff_toNat.mp hdigit
    have hlow : '0'.toNat = 0x30 := rfl
    have hhigh : '9'.toNat = 0x39 := rfl
    omega
  · split at h
    · rename_i hrange
      rw [Char.le_def, Char.le_def, UInt32.le_iff_toNat_le, UInt32.le_iff_toNat_le] at hrange
      have hlow : ('a' : Char).val.toNat = 0x61 := rfl
      have hhigh : ('f' : Char).val.toNat = 0x66 := rfl
      rw [Char.toNat]
      omega
    · split at h
      · rename_i hrange
        rw [Char.le_def, Char.le_def, UInt32.le_iff_toNat_le, UInt32.le_iff_toNat_le] at hrange
        have hlow : ('A' : Char).val.toNat = 0x41 := rfl
        have hhigh : ('F' : Char).val.toNat = 0x46 := rfl
        rw [Char.toNat]
        omega
      · cases h

theorem sparesEscapes_encodedInPath : SparesEscapes Url.encodedInPath := by
  intro c hc
  rw [Url.encodedInPath, Bool.or_eq_true] at hc
  rcases hc with hc | hc
  · simp only [Url.isForeign, Bool.or_eq_true, decide_eq_true_eq] at hc
    constructor
    · rintro rfl
      exact absurd hc (by decide)
    · intro hhex
      have hrange := toNat_of_isHex hhex
      omega
  · simp only [List.contains_iff_mem, List.mem_cons, List.not_mem_nil, or_false] at hc
    rcases hc with rfl | rfl | rfl | rfl | rfl | rfl | rfl | rfl | rfl <;> decide

end ArchDiagram.Web.Host
