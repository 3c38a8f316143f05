import ArchDiagram.Text.Base64
import Mathlib.Data.List.Basic

/-!
# Base64 read back

A symbol stands for one number below 64, and it is the only one that does.  So each group of symbols
is read as the octets that are written with it, and no group of other symbols is read: where symbols
are missing they are padded, and the bits of the last one that belong to no octet are zero.

* `sextet?_eq_some_iff`: the number of a symbol.
* `lastOne?_eq_some_iff`, `lastTwo?_eq_some_iff`, `decodeLoop_group`: groups of symbols.
* `decode?_eq_some_iff`: **the symbols that are read are those that are written**.
-/

namespace ArchDiagram.Base64

/-! ## Symbols -/

theorem sextet?_symbol : ∀ n < 64, sextet? (symbol n) = some n := by
  decide

theorem symbol_of_sextet? : ∀ k < 128, ∀ n ∈ sextet? (Char.ofNat k),
    n < 64 ∧ Char.ofNat k = symbol n := by
  decide

/-- **A number is read of its symbol and of no other character.** -/
theorem sextet?_eq_some_iff {c : Char} {n : Nat} :
    sextet? c = some n ↔ n < 64 ∧ c = symbol n := by
  constructor
  · intro h
    have hascii : c.toNat < 128 := by
      by_contra hge
      simp only [sextet?] at h
      rw [if_neg (by omega), if_neg (by omega), if_neg (by omega), if_neg (by omega),
        if_neg (by omega)] at h
      cases h
    have hsymbol := symbol_of_sextet? c.toNat hascii n
    rw [Char.ofNat_toNat] at hsymbol
    exact hsymbol h
  · rintro ⟨hn, rfl⟩
    exact sextet?_symbol n hn

theorem sextet?_pad : sextet? '=' = none := by
  decide

theorem symbol_ne_pad {n : Nat} (h : n < 64) : symbol n ≠ '=' := by
  intro heq
  have hsextet := sextet?_symbol n h
  rw [heq, sextet?_pad] at hsextet
  cases hsextet

/-! ## Groups -/

theorem toNat_octet (n : Nat) : (octet n).toNat = n % 256 := by
  rw [octet, UInt8.toNat_ofNat']
  omega

theorem octet_of_mod {b : UInt8} {n : Nat} (h : n % 256 = b.toNat) : octet n = b := by
  rw [octet, h, UInt8.ofNat_toNat]

theorem lastOne?_eq_some_iff {a b : Char} {bs : List UInt8} :
    lastOne? a b = some bs ↔ ∃ x, bs = [x] ∧ [a, b, '=', '='] = encode [x] := by
  simp only [lastOne?, Option.bind_eq_bind, Option.bind_eq_some_iff, sextet?_eq_some_iff, encode]
  constructor
  · rintro ⟨i, ⟨hi, rfl⟩, j, ⟨hj, rfl⟩, h⟩
    split at h
    · cases h
      refine ⟨_, rfl, ?_⟩
      generalize hn : i * 64 + j = n at *
      have hfirst : n / 16 % 256 / 4 = i := by omega
      have hsecond : n / 16 % 256 % 4 * 16 = j := by omega
      rw [toNat_octet, hfirst, hsecond]
    · cases h
  · rintro ⟨x, rfl, hsymbols⟩
    have hx := x.toNat_lt
    simp only [List.cons.injEq, and_true] at hsymbols
    obtain ⟨rfl, rfl⟩ := hsymbols
    refine ⟨_, ⟨by omega, rfl⟩, _, ⟨by omega, rfl⟩, ?_⟩
    rw [if_pos (by omega), octet_of_mod (b := x) (by omega)]

theorem lastTwo?_eq_some_iff {a b c : Char} {bs : List UInt8} :
    lastTwo? a b c = some bs ↔ ∃ x y, bs = [x, y] ∧ [a, b, c, '='] = encode [x, y] := by
  simp only [lastTwo?, Option.bind_eq_bind, Option.bind_eq_some_iff, sextet?_eq_some_iff, encode]
  constructor
  · rintro ⟨i, ⟨hi, rfl⟩, j, ⟨hj, rfl⟩, k, ⟨hk, rfl⟩, h⟩
    split at h
    · cases h
      refine ⟨_, _, rfl, ?_⟩
      generalize hn : (i * 64 + j) * 64 + k = n at *
      have hjoined : n / 1024 % 256 * 256 + n / 4 % 256 = n / 4 := by omega
      have hfirst : n / 4 / 1024 = i := by omega
      have hsecond : n / 4 / 16 % 64 = j := by omega
      have hthird : n / 4 % 16 * 4 = k := by omega
      rw [toNat_octet, toNat_octet, hjoined, hfirst, hsecond, hthird]
    · cases h
  · rintro ⟨x, y, rfl, hsymbols⟩
    have hx := x.toNat_lt
    have hy := y.toNat_lt
    simp only [List.cons.injEq, and_true] at hsymbols
    obtain ⟨rfl, rfl, rfl⟩ := hsymbols
    refine ⟨_, ⟨by omega, rfl⟩, _, ⟨by omega, rfl⟩, _, ⟨by omega, rfl⟩, ?_⟩
    rw [if_pos (by omega), octet_of_mod (b := x) (by omega), octet_of_mod (b := y) (by omega)]

/-- The symbols of numbers are written for the octets that are read of them. -/
theorem encode_octets {i j k l : Nat} (hi : i < 64) (hj : j < 64) (hk : k < 64) (hl : l < 64)
    {n : Nat} (hn : ((i * 64 + j) * 64 + k) * 64 + l = n) (more : List UInt8) :
    encode (octet (n / 65536) :: octet (n / 256) :: octet n :: more) =
      symbol i :: symbol j :: symbol k :: symbol l :: encode more := by
  have hjoined : (n / 65536 % 256 * 256 + n / 256 % 256) * 256 + n % 256 = n := by omega
  have hfirst : n / 262144 = i := by omega
  have hsecond : n / 4096 % 64 = j := by omega
  have hthird : n / 64 % 64 = k := by omega
  have hfourth : n % 64 = l := by omega
  rw [encode, toNat_octet, toNat_octet, toNat_octet, hjoined, hfirst, hsecond, hthird, hfourth]

/-- The symbols of three octets, whatever follows. -/
theorem decodeLoop_group (done : List UInt8) (x y z : UInt8) (more : List UInt8) :
    decodeLoop done (encode (x :: y :: z :: more)) =
      decodeLoop (z :: y :: x :: done) (encode more) := by
  have hx := x.toNat_lt
  have hy := y.toNat_lt
  have hz := z.toNat_lt
  rw [encode]
  generalize hn : (x.toNat * 256 + y.toNat) * 256 + z.toNat = n
  have hpad : symbol (n % 64) ≠ '=' := symbol_ne_pad (by omega)
  have hjoined : ((n / 262144 * 64 + n / 4096 % 64) * 64 + n / 64 % 64) * 64 + n % 64 = n := by
    omega
  rw [decodeLoop]
  · rw [sextet?_symbol _ (by omega), sextet?_symbol _ (by omega), sextet?_symbol _ (by omega),
      sextet?_symbol _ (by omega)]
    dsimp only [Option.bind_eq_bind, Option.bind_some]
    rw [hjoined, octet_of_mod (b := z) (by omega), octet_of_mod (b := y) (by omega),
      octet_of_mod (b := x) (by omega)]
  · rintro - h -
    exact hpad h
  · rintro h -
    exact hpad h

/-! ## Reading -/

theorem decodeLoop_encode (done more : List UInt8) :
    decodeLoop done (encode more) = some (done.reverse ++ more) := by
  fun_induction encode more generalizing done with
  | case1 => rw [decodeLoop, List.append_nil]
  | case2 x n =>
    have hlast := lastOne?_eq_some_iff.mpr ⟨x, rfl, rfl⟩
    rw [decodeLoop, hlast, Option.map_some]
  | case3 x y n =>
    have hlast := lastTwo?_eq_some_iff.mpr ⟨x, y, rfl, rfl⟩
    have hpad : symbol (n % 16 * 4) ≠ '=' := symbol_ne_pad (by omega)
    rw [decodeLoop, hlast, Option.map_some]
    exact hpad
  | case4 x y z more n ih =>
    have hgroup := decodeLoop_group done x y z more
    rw [encode, ih] at hgroup
    rw [hgroup]
    simp

/-- What is read of symbols is written with these symbols. -/
theorem eq_encode_of_decodeLoop {done bs : List UInt8} {cs : List Char}
    (h : decodeLoop done cs = some bs) : ∃ more, bs = done.reverse ++ more ∧ cs = encode more := by
  fun_induction decodeLoop done cs with
  | case1 done =>
    cases h
    exact ⟨[], by simp, rfl⟩
  | case2 done a b =>
    obtain ⟨more, hlast, rfl⟩ := Option.map_eq_some_iff.mp h
    obtain ⟨x, rfl, hsymbols⟩ := lastOne?_eq_some_iff.mp hlast
    exact ⟨[x], rfl, hsymbols⟩
  | case3 done a b c =>
    obtain ⟨more, hlast, rfl⟩ := Option.map_eq_some_iff.mp h
    obtain ⟨x, y, rfl, hsymbols⟩ := lastTwo?_eq_some_iff.mp hlast
    exact ⟨[x, y], rfl, hsymbols⟩
  | case4 done a b c d rest _ _ ih =>
    simp only [Option.bind_eq_bind, Option.bind_eq_some_iff, sextet?_eq_some_iff] at h
    obtain ⟨i, ⟨hi, rfl⟩, j, ⟨hj, rfl⟩, k, ⟨hk, rfl⟩, l, ⟨hl, rfl⟩, h⟩ := h
    obtain ⟨more, rfl, hrest⟩ := ih i j k l h
    have hgroup := encode_octets hi hj hk hl rfl more
    rw [← hrest] at hgroup
    exact ⟨_, by simp, hgroup.symm⟩
  | case5 => cases h

/-- **The symbols that are read are those that are written.** -/
theorem decode?_eq_some_iff {cs : List Char} {bs : List UInt8} :
    decode? cs = some bs ↔ cs = encode bs := by
  constructor
  · intro h
    obtain ⟨more, rfl, hcs⟩ := eq_encode_of_decodeLoop h
    exact hcs
  · rintro rfl
    exact decodeLoop_encode [] bs

end ArchDiagram.Base64
