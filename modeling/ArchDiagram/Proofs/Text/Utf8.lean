import ArchDiagram.Text.Utf8

/-!
# Octets of a text read back

A character is written as one octet, or as a leading octet and up to three that continue it.  The
leading octet announces how many are owed and bounds the next one, and it does so just widely enough
for the characters that are written with it.  So the reader is between two characters again exactly
when all octets of a character have come, and it has read this character.

* `Utf8.foldl_step_encodeChar`: **the octets of a character are read as this character**.
* `Utf8.decode?_encode`, `Utf8.decodeLossy_encode`: the octets of a text are read as this text.
* `Utf8.mem_encodeChar`: a character that is not ASCII has no ASCII octet.
* `Text.Uncontrolled`: texts without control characters, whose octets are no control octets either.
-/

/-! ## Texts without control characters -/

namespace ArchDiagram.Text

/-- Texts without control characters. -/
def Uncontrolled (cs : List Char) : Prop :=
  ∀ c ∈ cs, 32 ≤ c.toNat

namespace Uncontrolled

variable {a b : List Char}

theorem nil : Uncontrolled [] :=
  nofun

theorem cons {c : Char} (hc : 32 ≤ c.toNat) (h : Uncontrolled a) : Uncontrolled (c :: a) :=
  List.forall_mem_cons.mpr ⟨hc, h⟩

theorem append (ha : Uncontrolled a) (hb : Uncontrolled b) : Uncontrolled (a ++ b) :=
  List.forall_mem_append.mpr ⟨ha, hb⟩

theorem flatMap {α : Type} {xs : List α} {f : α → List Char} (h : ∀ x ∈ xs, Uncontrolled (f x)) :
    Uncontrolled (xs.flatMap f) := by
  intro c hc
  obtain ⟨x, hx, hc⟩ := List.mem_flatMap.mp hc
  exact h x hx c hc

theorem not_mem (h : Uncontrolled a) {c : Char} (hc : c.toNat < 32) : c ∉ a :=
  fun hm => Nat.not_lt.mpr (h c hm) hc

end Uncontrolled

end ArchDiagram.Text

namespace ArchDiagram.Utf8

theorem toNat_lt (c : Char) : c.toNat < 0xD800 ∨ 0xDFFF < c.toNat ∧ c.toNat < 0x110000 :=
  c.valid

/-! ## Octets of a character -/

/-- How a character is written, by the size of its number. -/
theorem utf8EncodeChar_eq (c : Char) : String.utf8EncodeChar c =
    if c.toNat < 0x80 then [.ofNat c.toNat]
    else if c.toNat < 0x800 then
      [.ofNat (c.toNat / 64 + 0xC0), .ofNat (c.toNat % 64 + 0x80)]
    else if c.toNat < 0x10000 then
      [.ofNat (c.toNat / 4096 + 0xE0), .ofNat (c.toNat / 64 % 64 + 0x80),
        .ofNat (c.toNat % 64 + 0x80)]
    else
      [.ofNat (c.toNat / 262144 + 0xF0), .ofNat (c.toNat / 4096 % 64 + 0x80),
        .ofNat (c.toNat / 64 % 64 + 0x80), .ofNat (c.toNat % 64 + 0x80)] := by
  have hc := toNat_lt c
  show (if c.toNat ≤ 127 then _ else _) = _
  by_cases h1 : c.toNat < 0x80
  · rw [if_pos (by omega), if_pos h1]
    rfl
  rw [if_neg (by omega), if_neg h1]
  by_cases h2 : c.toNat < 0x800
  · have hlead : c.toNat / 64 % 32 = c.toNat / 64 := Nat.mod_eq_of_lt (by omega)
    rw [if_pos h2, ← hlead]
    exact if_pos (show c.toNat ≤ 2047 by omega)
  rw [if_neg h2]
  by_cases h3 : c.toNat < 0x10000
  · have hlead : c.toNat / 4096 % 16 = c.toNat / 4096 := Nat.mod_eq_of_lt (by omega)
    rw [if_pos h3, ← hlead]
    refine (if_neg (show ¬ c.toNat ≤ 2047 by omega)).trans ?_
    exact if_pos (show c.toNat ≤ 65535 by omega)
  have hlead : c.toNat / 262144 % 8 = c.toNat / 262144 := Nat.mod_eq_of_lt (by omega)
  rw [if_neg h3, ← hlead]
  refine (if_neg (show ¬ c.toNat ≤ 2047 by omega)).trans ?_
  exact if_neg (show ¬ c.toNat ≤ 65535 by omega)

theorem utf8EncodeChar_ascii {c : Char} (h : c.toNat < 0x80) :
    String.utf8EncodeChar c = [.ofNat c.toNat] := by
  rw [utf8EncodeChar_eq, if_pos h]

theorem toNat_ofNat_of_lt {n : Nat} (h : n < 256) : (UInt8.ofNat n).toNat = n := by
  rw [UInt8.toNat_ofNat']
  exact Nat.mod_eq_of_lt h

/-- **A character that is not ASCII has no ASCII octet.** -/
theorem mem_encodeChar {c : Char} (hc : 0x80 ≤ c.toNat) {b : UInt8}
    (hb : b ∈ String.utf8EncodeChar c) : 0x80 ≤ b.toNat := by
  have hvalid := toNat_lt c
  have hn : ∀ n, b = .ofNat n → 0x80 ≤ n → n < 256 → 0x80 ≤ b.toNat := by
    intro n hn hlow hhigh
    rw [hn, toNat_ofNat_of_lt hhigh]
    exact hlow
  rw [utf8EncodeChar_eq, if_neg (by omega)] at hb
  split at hb
  · simp only [List.mem_cons, List.not_mem_nil, or_false] at hb
    rcases hb with hb | hb <;> exact hn _ hb (by omega) (by omega)
  split at hb
  · simp only [List.mem_cons, List.not_mem_nil, or_false] at hb
    rcases hb with hb | hb | hb <;> exact hn _ hb (by omega) (by omega)
  · simp only [List.mem_cons, List.not_mem_nil, or_false] at hb
    rcases hb with hb | hb | hb | hb <;> exact hn _ hb (by omega) (by omega)

def octets (cs : List Char) : List UInt8 :=
  cs.flatMap String.utf8EncodeChar

theorem octets_append (cs ds : List Char) : octets (cs ++ ds) = octets cs ++ octets ds :=
  List.flatMap_append

theorem octets_cons (c : Char) (cs : List Char) :
    octets (c :: cs) = String.utf8EncodeChar c ++ octets cs :=
  List.flatMap_cons

theorem octets_ascii {cs : List Char} (h : ∀ c ∈ cs, c.toNat < 0x80) :
    octets cs = cs.map fun c => .ofNat c.toNat := by
  induction cs with
  | nil => rfl
  | cons c cs ih =>
    have ih := ih fun d hd => h d (List.mem_cons_of_mem _ hd)
    rw [octets_cons, utf8EncodeChar_ascii (h c List.mem_cons_self), ih]
    rfl

/-- Control octets stand only for control characters. -/
theorem le_of_mem_octets {cs : List Char} (h : Text.Uncontrolled cs) :
    ∀ b ∈ octets cs, 32 ≤ b.toNat := by
  intro b hb
  obtain ⟨c, hc, hb⟩ := List.mem_flatMap.mp hb
  have hle := h c hc
  by_cases hascii : c.toNat < 0x80
  · rw [utf8EncodeChar_ascii hascii, List.mem_singleton] at hb
    rw [hb, toNat_ofNat_of_lt (by omega)]
    exact hle
  · have hb := mem_encodeChar (by omega) hb
    omega

/-! ## Reading one character -/

theorem step_none (done : List (Option Char)) {n : Nat} (hn : n < 256) :
    step (done, none) (.ofNat n) = begin done n := by
  rw [step, toNat_ofNat_of_lt hn]

theorem step_last (done : List (Option Char)) {p : Pending} {n : Nat} (hn : n < 256)
    (howed : p.owed ≤ 1) (hlow : p.low ≤ n) (hhigh : n ≤ p.high) :
    step (done, some p) (.ofNat n) =
      (some (Char.ofNat (p.code * 64 + (n - 0x80))) :: done, none) := by
  simp only [step, toNat_ofNat_of_lt hn]
  rw [if_pos ⟨hlow, hhigh⟩, if_pos howed]

theorem step_more (done : List (Option Char)) {p : Pending} {n : Nat} (hn : n < 256)
    (howed : 1 < p.owed) (hlow : p.low ≤ n) (hhigh : n ≤ p.high) :
    step (done, some p) (.ofNat n) =
      (done, some ⟨p.code * 64 + (n - 0x80), p.owed - 1, 0x80, 0xBF⟩) := by
  simp only [step, toNat_ofNat_of_lt hn]
  rw [if_pos ⟨hlow, hhigh⟩, if_neg (by omega)]

theorem start_two {n : Nat} (hlow : 0xC2 ≤ n) (hhigh : n < 0xE0) :
    start n = .pending ⟨n - 0xC0, 1, 0x80, 0xBF⟩ := by
  rw [start, if_neg (by omega), if_neg (by omega), if_pos hhigh]

theorem start_three {n : Nat} (hlow : 0xE0 ≤ n) (hhigh : n < 0xF0) :
    start n = .pending ⟨n - 0xE0, 2, if n = 0xE0 then 0xA0 else 0x80,
      if n = 0xED then 0x9F else 0xBF⟩ := by
  rw [start, if_neg (by omega), if_neg (by omega), if_neg (by omega)]
  by_cases h0 : n = 0xE0
  · subst h0
    rfl
  by_cases hD : n = 0xED
  · subst hD
    rfl
  rw [if_neg h0, if_neg hD, if_pos hhigh, if_neg h0, if_neg hD]

theorem start_four {n : Nat} (hlow : 0xF0 ≤ n) (hhigh : n ≤ 0xF4) :
    start n = .pending ⟨n - 0xF0, 3, if n = 0xF0 then 0x90 else 0x80,
      if n = 0xF4 then 0x8F else 0xBF⟩ := by
  have hcases : n = 0xF0 ∨ n = 0xF1 ∨ n = 0xF2 ∨ n = 0xF3 ∨ n = 0xF4 := by omega
  rcases hcases with rfl | rfl | rfl | rfl | rfl <;> rfl

/-- **The octets of a character are read as this character.** -/
theorem foldl_step_encodeChar (done : List (Option Char)) (c : Char) :
    (String.utf8EncodeChar c).foldl step (done, none) = (some c :: done, none) := by
  have hvalid := toNat_lt c
  rw [utf8EncodeChar_eq]
  by_cases h1 : c.toNat < 0x80
  · rw [if_pos h1, List.foldl_cons, List.foldl_nil, step_none done (by omega), begin, start,
      if_pos h1, Char.ofNat_toNat]
  rw [if_neg h1]
  by_cases h2 : c.toNat < 0x800
  · have hcode : (c.toNat / 64 + 0xC0 - 0xC0) * 64 + (c.toNat % 64 + 0x80 - 0x80) = c.toNat := by
      omega
    rw [if_pos h2, List.foldl_cons, List.foldl_cons, List.foldl_nil, step_none done (by omega),
      begin, start_two (by omega) (by omega)]
    dsimp only
    rw [step_last done (by omega) (Nat.le_refl 1) (by dsimp only; omega) (by dsimp only; omega),
      hcode, Char.ofNat_toNat]
  rw [if_neg h2]
  by_cases h3 : c.toNat < 0x10000
  · have hcode : ((c.toNat / 4096 + 0xE0 - 0xE0) * 64 + (c.toNat / 64 % 64 + 0x80 - 0x80)) * 64 +
        (c.toNat % 64 + 0x80 - 0x80) = c.toNat := by
      omega
    rw [if_pos h3, List.foldl_cons, List.foldl_cons, List.foldl_cons, List.foldl_nil,
      step_none done (by omega), begin, start_three (by omega) (by omega)]
    dsimp only
    rw [step_more done (by omega) (Nat.lt_succ_self 1) (by dsimp only; split <;> omega)
        (by dsimp only; split <;> omega),
      step_last done (by omega) (Nat.le_refl 1) (by dsimp only; omega) (by dsimp only; omega),
      hcode, Char.ofNat_toNat]
  have hcode : (((c.toNat / 262144 + 0xF0 - 0xF0) * 64 + (c.toNat / 4096 % 64 + 0x80 - 0x80)) * 64 +
      (c.toNat / 64 % 64 + 0x80 - 0x80)) * 64 + (c.toNat % 64 + 0x80 - 0x80) = c.toNat := by
    omega
  rw [if_neg h3, List.foldl_cons, List.foldl_cons, List.foldl_cons, List.foldl_cons, List.foldl_nil,
    step_none done (by omega), begin, start_four (by omega) (by omega)]
  dsimp only
  rw [step_more done (by omega) (by dsimp only; omega) (by dsimp only; split <;> omega)
      (by dsimp only; split <;> omega),
    step_more done (by omega) (Nat.lt_succ_self 1) (by dsimp only; omega) (by dsimp only; omega),
    step_last done (by omega) (Nat.le_refl 1) (by dsimp only; omega) (by dsimp only; omega),
    hcode, Char.ofNat_toNat]

/-! ## Reading a text -/

theorem foldl_step_octets (cs : List Char) (done : List (Option Char)) :
    (octets cs).foldl step (done, none) =
      ((cs.map some).reverse ++ done, none) := by
  induction cs generalizing done with
  | nil => rfl
  | cons c cs ih =>
    rw [octets_cons, List.foldl_append, foldl_step_encodeChar, ih]
    simp

theorem encode_eq_octets (s : String) : encode s = octets s.toList := rfl

theorem units_encode (s : String) : units (encode s) = s.toList.map some := by
  rw [units, encode_eq_octets, foldl_step_octets]
  simp

/-- **The octets of a text are read as this text.** -/
theorem decode?_encode (s : String) : decode? (encode s) = some s := by
  have hall : (s.toList.map some).mapM id = some s.toList := by
    induction s.toList with
    | nil => rfl
    | cons c cs ih => simp [ih]
  rw [decode?, units_encode, hall, Option.map_some, String.ofList_toList]

theorem decodeLossy_encode (s : String) : decodeLossy (encode s) = s := by
  simp [decodeLossy, units_encode, Function.comp_def]

end ArchDiagram.Utf8
