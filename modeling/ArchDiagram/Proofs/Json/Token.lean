import ArchDiagram.Proofs.Json.Literal
import ArchDiagram.Proofs.Json.Number
import Mathlib.Tactic.IntervalCases

/-!
# The tokens of a compact text

A word or a number ends only where something else begins, so that after its octets the machine still
holds it; what it would be if nothing more came is told by `Progress.settled`.  A mark, which is a
token of its own, settles it.  Octets therefore may be cut at their marks, and the tokens on both
sides do not depend on each other (`Scans.mark`).

* `Json.IsWritten`: values all of whose parts can be written.
* `Json.tokens`: the tokens of a value.
* `Json.IsWritten.scans`: **the compact text of a value is cut into its tokens**.
* `Json.IsWritten.uncontrolled`: no control character stands in it.
-/

namespace ArchDiagram

namespace Token

/-- The tokens, reversed, if nothing more comes; none inside a literal. -/
def Progress.settled (p : Progress) : Option (List Token) :=
  match p.mode with
  | .ground => some p.done
  | .word read => (ofWord? read).map (· :: p.done)
  | .number read => (ofNumber? read).map (· :: p.done)
  | _ => none

theorem finish_eq (p : Progress) : finish p = p.settled.map List.reverse := by
  rcases p with ⟨done, _ | read | read | read | read | ⟨owed, read⟩⟩
  · rfl
  · cases h : ofWord? read <;> simp [finish, Progress.settled, h]
  · cases h : ofNumber? read <;> simp [finish, Progress.settled, h]
  · rfl
  · rfl
  · rfl

/-- Between tokens, octets are cut into the given tokens. -/
def Scans (bs : List UInt8) (ts : List Token) : Prop :=
  ∀ done, ∃ p, bs.foldlM step ⟨done, .ground⟩ = some p ∧ p.settled = some (ts.reverse ++ done)

/-- An octet that is a token of its own. -/
structure IsMark (b : UInt8) (t : Token) : Prop where
  begin_eq : ∀ done, begin done b = some ⟨t :: done, .ground⟩
  no_letter : isLetter b = false
  no_digit : isNumeric b = false

/-- What is being read ends at a mark. -/
theorem IsMark.step_eq {b : UInt8} {t : Token} (h : IsMark b t) {p : Progress} {done : List Token}
    (hp : p.settled = some done) : step p b = some ⟨t :: done, .ground⟩ := by
  rcases p with ⟨before, _ | read | read | read | read | ⟨owed, read⟩⟩
  · cases hp
    exact h.begin_eq before
  · obtain ⟨w, hw, rfl⟩ := Option.map_eq_some_iff.mp hp
    simp [step, h.no_letter, hw, h.begin_eq]
  · obtain ⟨n, hn, rfl⟩ := Option.map_eq_some_iff.mp hp
    simp [step, h.no_digit, hn, h.begin_eq]
  · cases hp
  · cases hp
  · cases hp

theorem scans_nil : Scans [] [] :=
  fun done => ⟨⟨done, .ground⟩, rfl, rfl⟩

/-- **Octets may be cut at a mark before they are cut into tokens.** -/
theorem Scans.mark {bs more : List UInt8} {ts us : List Token} {b : UInt8} {t : Token}
    (h : Scans bs ts) (hb : IsMark b t) (h' : Scans more us) :
    Scans (bs ++ b :: more) (ts ++ t :: us) := by
  intro done
  -- the mark settles what `bs` has left open, so that `more` begins between two tokens
  obtain ⟨p, hp, hsettled⟩ := h done
  obtain ⟨q, hq, hlast⟩ := h' (t :: (ts.reverse ++ done))
  refine ⟨q, ?_, ?_⟩
  · rw [List.foldlM_append, hp]
    show (b :: more).foldlM step p = some q
    rw [List.foldlM_cons, hb.step_eq hsettled]
    exact hq
  · rw [hlast, List.reverse_append, List.reverse_cons]
    simp

theorem Scans.scan_eq {bs : List UInt8} {ts : List Token} (h : Scans bs ts) : scan bs = some ts := by
  obtain ⟨p, hp, hsettled⟩ := h []
  rw [scan, hp]
  show finish p = some ts
  rw [finish_eq, hsettled]
  simp

theorem isMark_openArray : IsMark 91 .openArray := ⟨fun _ => rfl, rfl, rfl⟩

theorem isMark_closeArray : IsMark 93 .closeArray := ⟨fun _ => rfl, rfl, rfl⟩

theorem isMark_openObject : IsMark 123 .openObject := ⟨fun _ => rfl, rfl, rfl⟩

theorem isMark_closeObject : IsMark 125 .closeObject := ⟨fun _ => rfl, rfl, rfl⟩

theorem isMark_colon : IsMark 58 .colon := ⟨fun _ => rfl, rfl, rfl⟩

theorem isMark_comma : IsMark 44 .comma := ⟨fun _ => rfl, rfl, rfl⟩

/-! ## Literals -/

/-- Inside a literal an octet that needs no escape is passed over. -/
theorem foldlM_step_plain {bs : List UInt8} (h : ∀ b ∈ bs, 32 ≤ b.toNat ∧ b ≠ 34 ∧ b ≠ 92)
    (done : List Token) (read : List UInt8) :
    bs.foldlM step ⟨done, .literal read⟩ = some ⟨done, .literal (bs.reverse ++ read)⟩ := by
  induction bs generalizing read with
  | nil => rfl
  | cons b bs ih =>
    obtain ⟨hlow, hquote, hslash⟩ := h b List.mem_cons_self
    have hcontrol : ¬ b < 32 := by
      rw [UInt8.lt_iff_toNat_lt]
      exact Nat.not_lt.mpr hlow
    have hb : step ⟨done, .literal read⟩ b = some ⟨done, .literal (b :: read)⟩ := by
      simp [step, hquote, hslash, hcontrol]
    rw [List.foldlM_cons, hb]
    show bs.foldlM step _ = _
    rw [ih fun b hb => h b (List.mem_cons_of_mem _ hb)]
    simp

/-- **A spelling of a character is passed over.** -/
theorem foldlM_step_spells {c : Char} {bs : List UInt8} (h : Literal.Spells c bs)
    (done : List Token) (read : List UInt8) :
    bs.foldlM step ⟨done, .literal read⟩ = some ⟨done, .literal (bs.reverse ++ read)⟩ := by
  cases h with
  | plain hplain => exact foldlM_step_plain hplain done read
  | @short letter b hl hb _ =>
    have hslash : step ⟨done, .literal read⟩ 92 = some ⟨done, .slash (92 :: read)⟩ := rfl
    have hletter : step ⟨done, .slash (92 :: read)⟩ letter =
        some ⟨done, .literal (letter :: 92 :: read)⟩ := by
      simp [step, hl, hb]
    rw [List.foldlM_cons, hslash]
    show [letter].foldlM step _ = _
    rw [List.foldlM_cons, hletter]
    rfl
  | @code high low m n hm hn _ _ =>
    have hstart : [92, 117, 48, 48].foldlM step ⟨done, .literal read⟩ =
        some ⟨done, .hex 2 (48 :: 48 :: 117 :: 92 :: read)⟩ := rfl
    have hdigits : ∀ r, [high, low].foldlM step ⟨done, .hex 2 r⟩ =
        some ⟨done, .literal (low :: high :: r)⟩ := by
      intro r
      simp [step, hm, hn]
    show ([92, 117, 48, 48] ++ [high, low]).foldlM step _ = _
    rw [List.foldlM_append, hstart]
    exact hdigits _

theorem foldlM_step_inside (cs : List Char) (done : List Token) (read : List UInt8) :
    (Utf8.octets (cs.flatMap Literal.escapeChar)).foldlM step ⟨done, .literal read⟩ =
      some ⟨done, .literal ((Utf8.octets (cs.flatMap Literal.escapeChar)).reverse ++ read)⟩ := by
  induction cs generalizing read with
  | nil => rfl
  | cons c cs ih =>
    have hc := foldlM_step_spells (Literal.spells_escapeChar c) done read
    rw [List.flatMap_cons, Utf8.octets_append, List.foldlM_append, hc]
    show (Utf8.octets (cs.flatMap Literal.escapeChar)).foldlM step _ = _
    rw [ih, List.reverse_append, List.append_assoc]

/-- **The literal of a text is a token that denotes this text.** -/
theorem scans_escape (s : String) :
    Scans (Utf8.octets (Literal.escape s)) [.string (some s)] := by
  intro done
  refine ⟨⟨.string (some s) :: done, .ground⟩, ?_, rfl⟩
  have hoctets : Utf8.octets (Literal.escape s) =
      34 :: (Utf8.octets (s.toList.flatMap Literal.escapeChar) ++ [34]) := by
    rw [Literal.escape, Utf8.octets_cons, Utf8.octets_append]
    rfl
  have hopen : step ⟨done, .ground⟩ 34 = some ⟨done, .literal []⟩ := rfl
  have hclose : ∀ read, step ⟨done, .literal read⟩ 34 =
      some ⟨.string (Literal.ofOctets? read.reverse) :: done, .ground⟩ := fun _ => rfl
  rw [hoctets, List.foldlM_cons, hopen]
  show (Utf8.octets (s.toList.flatMap Literal.escapeChar) ++ [34]).foldlM step _ = _
  rw [List.foldlM_append, foldlM_step_inside, Option.bind_eq_bind, Option.bind_some,
    List.foldlM_cons, hclose, List.append_nil, List.reverse_reverse, Literal.ofOctets?_inside]
  rfl

/-! ## Numbers and words -/

/-- A number is collected as far as its octets go. -/
theorem foldlM_step_numeric {bs : List UInt8} (h : ∀ b ∈ bs, isNumeric b = true)
    (done : List Token) (read : List UInt8) :
    bs.foldlM step ⟨done, .number read⟩ = some ⟨done, .number (bs.reverse ++ read)⟩ := by
  induction bs generalizing read with
  | nil => rfl
  | cons b bs ih =>
    have hb : step ⟨done, .number read⟩ b = some ⟨done, .number (b :: read)⟩ := by
      simp [step, h b List.mem_cons_self]
    rw [List.foldlM_cons, hb]
    show bs.foldlM step _ = _
    rw [ih fun b hb => h b (List.mem_cons_of_mem _ hb)]
    simp

theorem numeric_of_mem_chars {n : Number} (h : n.IsWritten) {c : Char} (hc : c ∈ n.chars) :
    32 ≤ c.toNat ∧ c.toNat < 0x80 ∧ isNumeric (.ofNat c.toNat) = true := by
  have hdigit : ∀ d < 10, 32 ≤ (Decimal.digitChar d).toNat ∧
      (Decimal.digitChar d).toNat < 0x80 ∧
      isNumeric (.ofNat (Decimal.digitChar d).toNat) = true := by
    decide
  rcases Number.mem_chars h hc with ⟨d, hd, rfl⟩ | hc
  · exact hdigit d hd
  · simp only [List.mem_cons, List.not_mem_nil, or_false] at hc
    rcases hc with rfl | rfl | rfl | rfl <;> decide

/-- A number begins with a sign or a digit. -/
theorem begin_chars {n : Number} (h : n.IsWritten) : ∃ c cs, n.chars = c :: cs ∧
    ∀ done, begin done (.ofNat c.toNat) = some ⟨done, .number [.ofNat c.toNat]⟩ := by
  have hdigit : ∀ d < 10, ∀ done, begin done (.ofNat (Decimal.digitChar d).toNat) =
      some ⟨done, .number [.ofNat (Decimal.digitChar d).toNat]⟩ := by
    intro d hd done
    interval_cases d <;> rfl
  obtain ⟨d, ds, hwhole⟩ := List.exists_cons_of_ne_nil h.whole_ne
  rw [Number.chars_eq, hwhole]
  cases n.negative with
  | true => exact ⟨_, _, rfl, fun _ => rfl⟩
  | false => exact ⟨_, _, rfl, hdigit d (h.whole_lt d (by rw [hwhole]; exact List.mem_cons_self))⟩

theorem map_charOf_octets {cs : List Char} (h : ∀ c ∈ cs, c.toNat < 0x80) :
    (Utf8.octets cs).map charOf = cs := by
  rw [Utf8.octets_ascii h, List.map_map]
  refine (List.map_congr_left fun c hc => ?_).trans (List.map_id cs)
  have hlt : c.toNat < 256 := Nat.lt_trans (h c hc) (by decide)
  show Char.ofNat (UInt8.ofNat c.toNat).toNat = c
  rw [Utf8.toNat_ofNat_of_lt hlt, Char.ofNat_toNat]

theorem scans_number {n : Number} (h : n.IsWritten) : Scans (Utf8.octets n.chars) [.number n] := by
  intro done
  have hascii : ∀ c ∈ n.chars, c.toNat < 0x80 := fun c hc => (numeric_of_mem_chars h hc).2.1
  have hnumeric : ∀ b ∈ Utf8.octets n.chars, isNumeric b = true := by
    intro b hb
    rw [Utf8.octets_ascii hascii] at hb
    obtain ⟨c, hc, rfl⟩ := List.mem_map.mp hb
    exact (numeric_of_mem_chars h hc).2.2
  have hread : ofNumber? (Utf8.octets n.chars).reverse = some (.number n) := by
    rw [ofNumber?, List.reverse_reverse, map_charOf_octets hascii, Number.ofChars?_chars h]
    rfl
  obtain ⟨c, cs, hchars, hbegin⟩ := begin_chars h
  have hoctets : Utf8.octets n.chars = .ofNat c.toNat :: Utf8.octets cs := by
    rw [hchars, Utf8.octets_cons, Utf8.utf8EncodeChar_ascii]
    · rfl
    · exact hascii c (by rw [hchars]; exact List.mem_cons_self)
  refine ⟨⟨done, .number (Utf8.octets n.chars).reverse⟩, ?_, ?_⟩
  · rw [hoctets] at hnumeric ⊢
    rw [List.foldlM_cons]
    show (begin done _ >>= _) = _
    rw [hbegin]
    show (Utf8.octets cs).foldlM step _ = _
    rw [foldlM_step_numeric fun b hb => hnumeric b (List.mem_cons_of_mem _ hb), List.reverse_cons]
  · show (ofNumber? _).map _ = _
    rw [hread]
    rfl

end Token

/-! ## Values -/

namespace Json

/-- Values all of whose parts can be written: every literal denotes a text, and every number is as
it may be written. -/
inductive IsWritten : Json → Prop
  | null : IsWritten .null
  | bool (b : Bool) : IsWritten (.bool b)
  | number {n : Number} : n.IsWritten → IsWritten (.number n)
  | text (s : String) : IsWritten (text s)
  | array {xs : List Json} : (∀ x ∈ xs, IsWritten x) → IsWritten (.array xs)
  | object {ms : List (Option String × Json)} : (∀ m ∈ ms, m.1.isSome) →
      (∀ m ∈ ms, IsWritten m.2) → IsWritten (.object ms)

theorem isWritten_nat (n : Nat) : (nat n).IsWritten :=
  .number (Number.isWritten_ofNat n)

theorem isWritten_record {ms : List (String × Json)} (h : ∀ m ∈ ms, m.2.IsWritten) :
    (record ms).IsWritten := by
  refine .object ?_ ?_
  · intro m hm
    obtain ⟨n, -, rfl⟩ := List.mem_map.mp hm
    rfl
  · intro m hm
    obtain ⟨n, hn, rfl⟩ := List.mem_map.mp hm
    exact h n hn

mutual

def tokens : Json → List Token
  | .null => [.null]
  | .bool b => [.bool b]
  | .number n => [.number n]
  | .string s => [.string s]
  | .array xs => .openArray :: (itemTokens xs ++ [.closeArray])
  | .object ms => .openObject :: (memberTokens ms ++ [.closeObject])

def itemTokens : List Json → List Token
  | [] => []
  | [x] => x.tokens
  | x :: y :: xs => x.tokens ++ .comma :: itemTokens (y :: xs)

def memberTokens : List (Option String × Json) → List Token
  | [] => []
  | [(k, v)] => .string k :: .colon :: v.tokens
  | (k, v) :: m :: ms => .string k :: .colon :: (v.tokens ++ .comma :: memberTokens (m :: ms))

end

open Token (Scans)

theorem scans_items {xs : List Json} (h : ∀ x ∈ xs, Scans (Utf8.octets x.chars) x.tokens) :
    Scans (Utf8.octets (itemChars xs)) (itemTokens xs) := by
  induction xs with
  | nil => exact Token.scans_nil
  | cons x xs ih =>
    have hx := h x List.mem_cons_self
    have ih := ih fun y hy => h y (List.mem_cons_of_mem _ hy)
    cases xs with
    | nil => exact hx
    | cons y xs =>
      rw [itemChars, itemTokens, Utf8.octets_append, Utf8.octets_cons]
      exact hx.mark Token.isMark_comma ih

theorem scans_members {ms : List (Option String × Json)} (hk : ∀ m ∈ ms, m.1.isSome)
    (h : ∀ m ∈ ms, Scans (Utf8.octets m.2.chars) m.2.tokens) :
    Scans (Utf8.octets (memberChars ms)) (memberTokens ms) := by
  induction ms with
  | nil => exact Token.scans_nil
  | cons m ms ih =>
    have hm := h m List.mem_cons_self
    have ih := ih (fun y hy => hk y (List.mem_cons_of_mem _ hy))
      fun y hy => h y (List.mem_cons_of_mem _ hy)
    obtain ⟨k, hkey⟩ := Option.isSome_iff_exists.mp (hk m List.mem_cons_self)
    obtain ⟨key, v⟩ := m
    obtain rfl : key = some k := hkey
    have hliteral := Token.scans_escape k
    cases ms with
    | nil =>
      rw [memberChars, memberTokens, Utf8.octets_append, Utf8.octets_cons]
      exact hliteral.mark Token.isMark_colon hm
    | cons m ms =>
      rw [memberChars, memberTokens, Utf8.octets_append, Utf8.octets_cons, Utf8.octets_append,
        Utf8.octets_cons]
      exact hliteral.mark Token.isMark_colon (hm.mark Token.isMark_comma ih)

/-- **The compact text of a value is cut into its tokens.** -/
theorem IsWritten.scans {j : Json} (h : j.IsWritten) : Scans (Utf8.octets j.chars) j.tokens := by
  induction h with
  | null => exact fun done => ⟨_, rfl, rfl⟩
  | bool b => cases b <;> exact fun done => ⟨_, rfl, rfl⟩
  | number hn => exact Token.scans_number hn
  | text s => exact Token.scans_escape s
  | @array xs _ ih =>
    have hitems := (scans_items ih).mark Token.isMark_closeArray Token.scans_nil
    rw [chars, tokens, Utf8.octets_cons, Utf8.octets_append]
    exact Token.scans_nil.mark Token.isMark_openArray hitems
  | @object ms hk _ ih =>
    have hmembers := (scans_members hk ih).mark Token.isMark_closeObject Token.scans_nil
    rw [chars, tokens, Utf8.octets_cons, Utf8.octets_append]
    exact Token.scans_nil.mark Token.isMark_openObject hmembers

/-! ## Control characters -/

theorem uncontrolled_itemChars {xs : List Json} (h : ∀ x ∈ xs, Text.Uncontrolled x.chars) :
    Text.Uncontrolled (itemChars xs) := by
  induction xs with
  | nil => exact .nil
  | cons x xs ih =>
    have hx := h x List.mem_cons_self
    have ih := ih fun y hy => h y (List.mem_cons_of_mem _ hy)
    cases xs with
    | nil => exact hx
    | cons y xs => exact hx.append (ih.cons (by decide))

theorem uncontrolled_memberChars {ms : List (Option String × Json)} (hk : ∀ m ∈ ms, m.1.isSome)
    (h : ∀ m ∈ ms, Text.Uncontrolled m.2.chars) : Text.Uncontrolled (memberChars ms) := by
  induction ms with
  | nil => exact .nil
  | cons m ms ih =>
    have hm := h m List.mem_cons_self
    have ih := ih (fun y hy => hk y (List.mem_cons_of_mem _ hy))
      fun y hy => h y (List.mem_cons_of_mem _ hy)
    obtain ⟨k, hkey⟩ := Option.isSome_iff_exists.mp (hk m List.mem_cons_self)
    obtain ⟨key, v⟩ := m
    obtain rfl : key = some k := hkey
    have hliteral : Text.Uncontrolled (literalChars (some k)) := Literal.uncontrolled_escape k
    cases ms with
    | nil => exact hliteral.append (hm.cons (by decide))
    | cons m ms => exact hliteral.append ((hm.append (ih.cons (by decide))).cons (by decide))

/-- **No control character stands in the compact text of a value.** -/
theorem IsWritten.uncontrolled {j : Json} (h : j.IsWritten) : Text.Uncontrolled j.chars := by
  have hclose : ∀ c : Char, 32 ≤ c.toNat → Text.Uncontrolled [c] := fun c hc => .cons hc .nil
  induction h with
  | null => simp [chars, Text.Uncontrolled]
  | bool b => cases b <;> simp [chars, Text.Uncontrolled]
  | number hn => exact fun c hc => (Token.numeric_of_mem_chars hn hc).1
  | text s => exact Literal.uncontrolled_escape s
  | @array xs _ ih =>
    exact ((uncontrolled_itemChars ih).append (hclose ']' (by decide))).cons (by decide)
  | @object ms hk _ ih =>
    exact ((uncontrolled_memberChars hk ih).append (hclose (.ofNat 0x7D) (by decide))).cons
      (by decide)

end Json

end ArchDiagram
