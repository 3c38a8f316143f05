import ArchDiagram.Json.Token
import ArchDiagram.Proofs.Text.Utf8

/-!
# String literals read back

Inside a literal a character is spelled in one of three ways: by its own octets, by a backslash and
a letter, or by a backslash and its number (`Spells`).  What is written for a character is one of
these, and whoever reads a spelling has read the character: the reader of the text, and the machine
that looks for the end of the literal, which passes over it.

* `Literal.spells_escapeChar`: what is written for a character spells it.
* `Literal.Spells.read`: whoever reads a spelling has read the character.
* `Literal.ofOctets?_inside`: **the literal of a text denotes this text**.
* `Literal.uncontrolled_escape`: no control character stands in it.
-/

namespace ArchDiagram

namespace Literal

/-- Octets that spell a character inside a literal. -/
inductive Spells : Char → List UInt8 → Prop
  | plain {c : Char} : (∀ b ∈ String.utf8EncodeChar c, 32 ≤ b.toNat ∧ b ≠ 34 ∧ b ≠ 92) →
      Spells c (String.utf8EncodeChar c)
  | short {c : Char} {letter b : UInt8} : letter ≠ 117 → shortEscape? letter = some b →
      String.utf8EncodeChar c = [b] → Spells c [92, letter]
  | code {c : Char} {high low : UInt8} {m n : Nat} : hexDigit? high = some m →
      hexDigit? low = some n → c.toNat = m * 16 + n → c.toNat < 0x80 →
      Spells c [92, 117, 48, 48, high, low]

/-! ## What is written -/

theorem hexDigit?_digitChar : ∀ d < 16,
    String.utf8EncodeChar (Nat.digitChar d) = [.ofNat (Nat.digitChar d).toNat] ∧
      hexDigit? (.ofNat (Nat.digitChar d).toNat) = some d := by
  decide

/-- A character that needs no escape consists of octets that need none. -/
theorem spells_self {c : Char} (hlow : 32 ≤ c.toNat) (hquote : c.toNat ≠ 34)
    (hslash : c.toNat ≠ 92) : Spells c (String.utf8EncodeChar c) := by
  refine .plain fun b hb => ?_
  have hne : 32 ≤ b.toNat ∧ b.toNat ≠ 34 ∧ b.toNat ≠ 92 := by
    by_cases hc : c.toNat < 0x80
    · rw [Utf8.utf8EncodeChar_ascii hc, List.mem_singleton] at hb
      rw [hb, Utf8.toNat_ofNat_of_lt (by omega)]
      exact ⟨hlow, hquote, hslash⟩
    · have hb := Utf8.mem_encodeChar (by omega) hb
      omega
  refine ⟨hne.1, ?_, ?_⟩
  · rintro rfl
    exact hne.2.1 rfl
  · rintro rfl
    exact hne.2.2 rfl

theorem spells_short {c : Char} {letter : UInt8} (hl : letter ≠ 117)
    (h : shortEscape? letter = some (.ofNat c.toNat)) (hc : c.toNat < 0x80) :
    Spells c [92, letter] :=
  .short hl h (Utf8.utf8EncodeChar_ascii hc)

theorem spells_code {c : Char} (hc : c.toNat < 32) :
    Spells c (Utf8.octets ['\\', 'u', '0', '0', Nat.digitChar (c.toNat / 16),
      Nat.digitChar (c.toNat % 16)]) := by
  obtain ⟨hhigh, hm⟩ := hexDigit?_digitChar (c.toNat / 16) (by omega)
  obtain ⟨hlow, hn⟩ := hexDigit?_digitChar (c.toNat % 16) (by omega)
  have hoctets : Utf8.octets ['\\', 'u', '0', '0', Nat.digitChar (c.toNat / 16),
      Nat.digitChar (c.toNat % 16)] = [92, 117, 48, 48] ++
        (String.utf8EncodeChar (Nat.digitChar (c.toNat / 16)) ++
          String.utf8EncodeChar (Nat.digitChar (c.toNat % 16))) := by
    simp only [Utf8.octets, List.flatMap_cons, List.flatMap_nil, List.append_nil]
    rfl
  rw [hoctets, hhigh, hlow]
  exact .code hm hn (by omega) (by omega)

/-- **What is written for a character spells it.** -/
theorem spells_escapeChar (c : Char) : Spells c (Utf8.octets (escapeChar c)) := by
  unfold escapeChar
  split
  case h_8 h34 h92 h8 h9 h10 h12 h13 =>
    split
    · exact spells_code ‹_›
    · simp [Utf8.octets]
      exact spells_self (by omega) h34 h92
  all_goals
    rename_i hc
    refine spells_short (by decide) ?_ (by omega)
    rw [hc]
    rfl

theorem uncontrolled_escapeChar (c : Char) : Text.Uncontrolled (escapeChar c) := by
  have hdigit : ∀ n < 16, 32 ≤ (Nat.digitChar n).toNat := by decide
  intro d hd
  unfold escapeChar at hd
  split at hd
  case h_8 =>
    split at hd
    · simp only [List.mem_cons, List.not_mem_nil, or_false] at hd
      rcases hd with rfl | rfl | rfl | rfl | rfl | rfl
      · decide
      · decide
      · decide
      · decide
      · exact hdigit _ (by omega)
      · exact hdigit _ (by omega)
    · rw [List.mem_singleton.mp hd]
      omega
  all_goals
    simp only [List.mem_cons, List.not_mem_nil, or_false] at hd
    rcases hd with rfl | rfl <;> decide

/-- **No control character stands in a literal.** -/
theorem uncontrolled_escape (s : String) : Text.Uncontrolled (escape s) := by
  have hinside : Text.Uncontrolled (s.toList.flatMap escapeChar) :=
    .flatMap fun c _ => uncontrolled_escapeChar c
  exact (hinside.append (Text.Uncontrolled.nil.cons (by decide))).cons (by decide)

/-! ## What is read -/

/-- Octets that need no escape are read as they are. -/
theorem foldlM_step_plain {bs : List UInt8} (h : ∀ b ∈ bs, b ≠ 92) (done : List UInt8) :
    bs.foldlM step ⟨done, .outside, none⟩ = some ⟨bs.reverse ++ done, .outside, none⟩ := by
  induction bs generalizing done with
  | nil => rfl
  | cons b bs ih =>
    have hb : step ⟨done, .outside, none⟩ b = some ⟨b :: done, .outside, none⟩ := by
      simp [step, h b List.mem_cons_self]
    have hbs : ∀ b ∈ bs, b ≠ 92 := fun b hb => h b (List.mem_cons_of_mem _ hb)
    rw [List.foldlM_cons, hb]
    show bs.foldlM step _ = _
    rw [ih hbs, List.reverse_cons, List.append_assoc]
    rfl

/-- A number of four digits, of which the first two are zero, names a character. -/
theorem foldlM_step_code {high low : UInt8} {m n : Nat} (hm : hexDigit? high = some m)
    (hn : hexDigit? low = some n) (hlt : m * 16 + n < 0x80) (done : List UInt8) :
    [92, 117, 48, 48, high, low].foldlM step ⟨done, .outside, none⟩ =
      some (Progress.addChar ⟨done, .hex 1 m, none⟩ (m * 16 + n)) := by
  have hhigh : step ⟨done, .hex 2 0, none⟩ high = some ⟨done, .hex 1 m, none⟩ := by
    simp [step, hm]
  have hlow : step ⟨done, .hex 1 m, none⟩ low =
      some (Progress.addChar ⟨done, .hex 1 m, none⟩ (m * 16 + n)) := by
    simp only [step, hn, Option.bind_eq_bind, Option.bind_some]
    rw [if_pos (Nat.le_refl 1), Progress.addUnit]
    simp only
    rw [if_neg (by omega), if_neg (by simp; omega)]
  have hstart : [92, 117, 48, 48].foldlM step ⟨done, .outside, none⟩ =
      some ⟨done, .hex 2 0, none⟩ := rfl
  show ([92, 117, 48, 48] ++ [high, low]).foldlM step _ = _
  rw [List.foldlM_append, hstart]
  show [high, low].foldlM step _ = _
  rw [List.foldlM_cons, hhigh]
  show [low].foldlM step _ = _
  rw [List.foldlM_cons, hlow]
  rfl

/-- **Whoever reads a spelling has read the character.** -/
theorem Spells.read {c : Char} {bs : List UInt8} (h : Spells c bs) (done : List UInt8) :
    bs.foldlM step ⟨done, .outside, none⟩ =
      some ⟨(String.utf8EncodeChar c).reverse ++ done, .outside, none⟩ := by
  cases h with
  | plain hplain => exact foldlM_step_plain (fun b hb => (hplain b hb).2.2) done
  | @short letter b hl hb hc =>
    have hslash : step ⟨done, .outside, none⟩ 92 = some ⟨done, .slash, none⟩ := rfl
    have hletter : step ⟨done, .slash, none⟩ letter = some ⟨b :: done, .outside, none⟩ := by
      simp [step, hl, hb]
    rw [List.foldlM_cons, hslash, hc]
    show [letter].foldlM step _ = _
    rw [List.foldlM_cons, hletter]
    rfl
  | @code high low m n hm hn hc hlt =>
    rw [foldlM_step_code hm hn (by omega), Progress.addChar, ← hc, Char.ofNat_toNat]

theorem foldlM_step_inside (cs : List Char) (done : List UInt8) :
    (Utf8.octets (cs.flatMap escapeChar)).foldlM step ⟨done, .outside, none⟩ =
      some ⟨(Utf8.octets cs).reverse ++ done, .outside, none⟩ := by
  induction cs generalizing done with
  | nil => rfl
  | cons c cs ih =>
    rw [List.flatMap_cons, Utf8.octets_append, List.foldlM_append, (spells_escapeChar c).read]
    show (Utf8.octets (cs.flatMap escapeChar)).foldlM step _ = _
    rw [ih, ← List.append_assoc, ← List.reverse_append]
    rfl

/-- **The literal of a text denotes this text.** -/
theorem ofOctets?_inside (s : String) :
    ofOctets? (Utf8.octets (s.toList.flatMap escapeChar)) = some s := by
  rw [ofOctets?, foldlM_step_inside, List.append_nil]
  simp only [Option.bind_eq_bind, Option.bind_some, and_self, if_true, List.reverse_reverse]
  exact Utf8.decode?_encode s

end Literal

end ArchDiagram
