import ArchDiagram.Proofs.Text.Line
import ArchDiagram.Proofs.Text.Lowercase
import ArchDiagram.Proofs.Text.Utf8

/-!
# Octets that are a text

Strict reading accepts the octets of texts and nothing else.  Between two characters all that has
been read are the octets of the characters so far.  Within a character there are some octets more,
the first ones of every character that can still come of them (`Opens`); and a broken part is never
forgotten.

* `Opens`: the octets of a character that is not complete.
* `Spells`: what has been read of some octets, and `spells_step`: **one octet more**.
* `decode?_eq_some_iff`: **the octets that are read strictly are those of texts**.
-/

namespace ArchDiagram.Utf8

/-! ## Octets of a character that is not complete -/

/-- Whatever `more + 1` octets `p` takes up, the octets `held` and these are those of the character
that is read. -/
def Opens : Nat → Pending → List UInt8 → Prop
  | 0, p, held => ∀ n, p.low ≤ n → n ≤ p.high →
      held ++ [.ofNat n] = String.utf8EncodeChar (Char.ofNat (p.code * 64 + (n - 0x80)))
  | more + 1, p, held => ∀ n, p.low ≤ n → n ≤ p.high →
      Opens more ⟨p.code * 64 + (n - 0x80), more + 1, 0x80, 0xBF⟩ (held ++ [.ofNat n])

theorem encodeChar_ofNat {k : Nat} (h : k < 0xD800 ∨ 0xE000 ≤ k ∧ k < 0x110000) :
    String.utf8EncodeChar (Char.ofNat k) =
      if k < 0x80 then [.ofNat k]
      else if k < 0x800 then [.ofNat (k / 64 + 0xC0), .ofNat (k % 64 + 0x80)]
      else if k < 0x10000 then
        [.ofNat (k / 4096 + 0xE0), .ofNat (k / 64 % 64 + 0x80), .ofNat (k % 64 + 0x80)]
      else
        [.ofNat (k / 262144 + 0xF0), .ofNat (k / 4096 % 64 + 0x80),
          .ofNat (k / 64 % 64 + 0x80), .ofNat (k % 64 + 0x80)] := by
  rw [utf8EncodeChar_eq, Text.toNat_ofNat_of_valid h]

theorem opens_two {n : Nat} (hlow : 0xC2 ≤ n) (hhigh : n < 0xE0) :
    Opens 0 ⟨n - 0xC0, 1, 0x80, 0xBF⟩ [.ofNat n] := by
  intro m hm hm'
  dsimp only at hm hm' ⊢
  rw [encodeChar_ofNat (by omega), if_neg (by omega), if_pos (by omega)]
  have hfirst : ((n - 0xC0) * 64 + (m - 0x80)) / 64 + 0xC0 = n := by omega
  have hlast : ((n - 0xC0) * 64 + (m - 0x80)) % 64 + 0x80 = m := by omega
  rw [hfirst, hlast]
  rfl

theorem opens_three {n : Nat} (hlow : 0xE0 ≤ n) (hhigh : n < 0xF0) :
    Opens 1 ⟨n - 0xE0, 2, if n = 0xE0 then 0xA0 else 0x80, if n = 0xED then 0x9F else 0xBF⟩
      [.ofNat n] := by
  intro m hm hm' l hl hl'
  dsimp only at hm hm' hl hl' ⊢
  -- the bounds of the second octet leave out longer forms and halves of surrogate pairs
  have hvalid : 0x800 ≤ ((n - 0xE0) * 64 + (m - 0x80)) * 64 + (l - 0x80) ∧
      (((n - 0xE0) * 64 + (m - 0x80)) * 64 + (l - 0x80) < 0xD800 ∨
        0xE000 ≤ ((n - 0xE0) * 64 + (m - 0x80)) * 64 + (l - 0x80)) := by
    split at hm <;> split at hm' <;> omega
  have hm₀ : 0x80 ≤ m ∧ m ≤ 0xBF := by
    split at hm <;> split at hm' <;> omega
  rw [encodeChar_ofNat (by omega), if_neg (by omega), if_neg (by omega), if_pos (by omega)]
  have hfirst : (((n - 0xE0) * 64 + (m - 0x80)) * 64 + (l - 0x80)) / 4096 + 0xE0 = n := by omega
  have hsecond : (((n - 0xE0) * 64 + (m - 0x80)) * 64 + (l - 0x80)) / 64 % 64 + 0x80 = m := by
    omega
  have hlast : (((n - 0xE0) * 64 + (m - 0x80)) * 64 + (l - 0x80)) % 64 + 0x80 = l := by omega
  rw [hfirst, hsecond, hlast]
  rfl

theorem opens_four {n : Nat} (hlow : 0xF0 ≤ n) (hhigh : n ≤ 0xF4) :
    Opens 2 ⟨n - 0xF0, 3, if n = 0xF0 then 0x90 else 0x80, if n = 0xF4 then 0x8F else 0xBF⟩
      [.ofNat n] := by
  intro m hm hm' l hl hl' k hk hk'
  dsimp only at hm hm' hl hl' hk hk' ⊢
  generalize hcode : (((n - 0xF0) * 64 + (m - 0x80)) * 64 + (l - 0x80)) * 64 + (k - 0x80) = code
  have hvalid : 0x10000 ≤ code ∧ code < 0x110000 := by
    split at hm <;> split at hm' <;> omega
  have hm₀ : 0x80 ≤ m ∧ m ≤ 0xBF := by
    split at hm <;> split at hm' <;> omega
  rw [encodeChar_ofNat (by omega), if_neg (by omega), if_neg (by omega), if_neg (by omega)]
  have hfirst : code / 262144 + 0xF0 = n := by omega
  have hsecond : code / 4096 % 64 + 0x80 = m := by omega
  have hthird : code / 64 % 64 + 0x80 = l := by omega
  have hlast : code % 64 + 0x80 = k := by omega
  rw [hfirst, hsecond, hthird, hlast]
  rfl

/-- An octet that starts a character and does not end it is the first one of all characters that
can come of it. -/
theorem opens_of_start {n : Nat} {p : Pending} (h : start n = .pending p) :
    ∃ more, p.owed = more + 1 ∧ Opens more p [.ofNat n] := by
  have hrange : 0xC2 ≤ n ∧ n ≤ 0xF4 := by
    unfold start at h
    repeat' split at h
    all_goals first | omega | cases h
  rcases Nat.lt_or_ge n 0xE0 with htwo | htwo
  · rw [start_two hrange.1 htwo] at h
    obtain rfl := Start.pending.inj h
    exact ⟨0, rfl, opens_two hrange.1 htwo⟩
  rcases Nat.lt_or_ge n 0xF0 with hthree | hthree
  · rw [start_three htwo hthree] at h
    obtain rfl := Start.pending.inj h
    exact ⟨1, rfl, opens_three htwo hthree⟩
  · rw [start_four hthree hrange.2] at h
    obtain rfl := Start.pending.inj h
    exact ⟨2, rfl, opens_four hthree hrange.2⟩

/-! ## What has been read -/

/-- What has been read of some octets: the characters whose octets they are, possibly a character
that is not complete, or a broken part somewhere. -/
inductive Spells : List UInt8 → Reading → Prop
  | between (cs : List Char) : Spells (octets cs) ((cs.map some).reverse, none)
  | within (cs : List Char) {more : Nat} {p : Pending} {held : List UInt8}
      (howed : p.owed = more + 1) (h : Opens more p held) :
      Spells (octets cs ++ held) ((cs.map some).reverse, some p)
  | broken {bs : List UInt8} {s : Reading} (h : none ∈ s.1) : Spells bs s

theorem mem_begin {done : List (Option Char)} {x : Option Char} (h : x ∈ done) (n : Nat) :
    x ∈ (begin done n).1 := by
  rw [← List.nil_append done, begin_append]
  exact List.mem_append_right _ h

theorem mem_step {s : Reading} {x : Option Char} (h : x ∈ s.1) (b : UInt8) :
    x ∈ (step s b).1 := by
  obtain ⟨done, p⟩ := s
  rw [← List.nil_append done, step_append]
  exact List.mem_append_right _ h

theorem octets_concat (cs : List Char) (c : Char) :
    octets (cs ++ [c]) = octets cs ++ String.utf8EncodeChar c := by
  rw [octets_append, octets_cons]
  simp [octets]

theorem between_concat (cs : List Char) (c : Char) :
    Spells (octets cs ++ String.utf8EncodeChar c) (some c :: (cs.map some).reverse, none) := by
  have h := Spells.between (cs ++ [c])
  rw [octets_concat] at h
  simpa using h

theorem spells_begin (cs : List Char) {n : Nat} (hn : n < 256) :
    Spells (octets cs ++ [.ofNat n]) (begin (cs.map some).reverse n) := by
  rw [begin]
  cases hstart : start n with
  | char c =>
    have hascii : n < 0x80 ∧ c = Char.ofNat n := by
      unfold start at hstart
      repeat' split at hstart
      all_goals cases hstart
      exact ⟨by assumption, rfl⟩
    have hoctet : [UInt8.ofNat n] = String.utf8EncodeChar c := by
      rw [hascii.2, encodeChar_ofNat (by omega), if_pos hascii.1]
    rw [hoctet]
    exact between_concat cs c
  | pending p =>
    obtain ⟨more, howed, hopens⟩ := opens_of_start hstart
    exact .within cs howed hopens
  | broken => exact .broken List.mem_cons_self

/-- **One octet more.** -/
theorem spells_step {bs : List UInt8} {s : Reading} (h : Spells bs s) (b : UInt8) :
    Spells (bs ++ [b]) (step s b) := by
  obtain ⟨n, hn, rfl⟩ : ∃ n, n < 256 ∧ b = .ofNat n := ⟨b.toNat, b.toNat_lt, by simp⟩
  cases h with
  | between cs =>
    rw [step_none _ hn]
    exact spells_begin cs hn
  | @within cs more p held howed hopens =>
    rw [List.append_assoc]
    by_cases hrange : p.low ≤ n ∧ n ≤ p.high
    · cases more with
      | zero =>
        rw [step_last _ hn (by omega) hrange.1 hrange.2, hopens n hrange.1 hrange.2]
        exact between_concat cs _
      | succ more =>
        rw [step_more _ hn (by omega) hrange.1 hrange.2, howed]
        exact .within cs rfl (hopens n hrange.1 hrange.2)
    · refine .broken ?_
      simp only [step, toNat_ofNat_of_lt hn]
      rw [if_neg hrange]
      exact mem_begin List.mem_cons_self n
  | broken hbroken => exact .broken (mem_step hbroken _)

theorem spells_foldl {bs : List UInt8} {s : Reading} (h : Spells bs s) (more : List UInt8) :
    Spells (bs ++ more) (more.foldl step s) := by
  induction more generalizing bs s with
  | nil =>
    rw [List.append_nil]
    exact h
  | cons b more ih =>
    have hstep := ih (spells_step h b)
    rwa [List.append_assoc, List.singleton_append] at hstep

/-! ## Strict reading -/

theorem mapM_id_eq_some_iff {us : List (Option Char)} {cs : List Char} :
    us.mapM id = some cs ↔ us = cs.map some := by
  induction us generalizing cs with
  | nil => cases cs <;> simp
  | cons u us ih =>
    simp only [List.mapM_cons, Option.bind_eq_bind, Option.bind_eq_some_iff, id_eq, ih,
      Option.pure_def, Option.some.injEq]
    constructor
    · rintro ⟨c, rfl, cs, rfl, rfl⟩
      rfl
    · intro h
      cases cs with
      | nil => cases h
      | cons c cs =>
        obtain ⟨hc, hcs⟩ := List.cons.inj h
        exact ⟨c, hc, cs, hcs, rfl⟩

theorem decode?_eq_some {bs : List UInt8} {s : String} (h : decode? bs = some s) :
    bs = encode s := by
  obtain ⟨cs, hcs, rfl⟩ := Option.map_eq_some_iff.mp h
  rw [mapM_id_eq_some_iff, units_eq, List.reverse_eq_iff] at hcs
  have hwhole : none ∉ (cs.map some).reverse := by
    simp
  have hspells : Spells bs (bs.foldl step ([], none)) := spells_foldl (.between []) bs
  rw [encode_eq_octets, String.toList_ofList]
  generalize bs.foldl step ([], none) = r at hspells hcs
  -- a broken part, or a character that is not complete, would have been read as one
  cases hspells with
  | between cs' =>
    have hsame : cs' = cs :=
      List.map_injective_iff.mpr (fun _ _ => Option.some.inj) (List.reverse_inj.mp hcs)
    rw [hsame]
  | within cs' =>
    rw [← hcs] at hwhole
    exact absurd List.mem_cons_self hwhole
  | broken hbroken =>
    obtain ⟨done, p⟩ := r
    have hclosed : none ∈ Reading.closed (done, p) := by
      cases p with
      | none => exact hbroken
      | some p => exact List.mem_cons_self
    rw [hcs] at hclosed
    exact absurd hclosed hwhole

/-- **The octets that are read strictly are those of texts.** -/
theorem decode?_eq_some_iff {bs : List UInt8} {s : String} :
    decode? bs = some s ↔ bs = encode s :=
  ⟨decode?_eq_some, fun h => h ▸ decode?_encode s⟩

end ArchDiagram.Utf8
