import ArchDiagram.Proofs.Text.Line
import ArchDiagram.Proofs.Text.Occurrence
import ArchDiagram.Proofs.Web.Percent
import Mathlib.Data.List.Forall2

/-!
# Paths of addresses

A path is split at its slashes, and its dot segments are resolved.  Both can only make it shorter:
every slash goes with a segment, and a dot segment takes at least itself away.  A path therefore
keeps its whole extent if and only if it keeps all its segments.

* `Url.extent`: how long segments are.
* `Url.extent_splitBy`, `Url.extent_joined`: splitting and joining keep the extent.
* `Url.resolve_of_forall`, `Url.resolve_shortens`: **resolving keeps all segments or makes them
  shorter**.
* `Url.IsSegment`: names that stand in a path for themselves.
-/

namespace ArchDiagram

namespace Text

/-! ## Splitting -/

variable {p : Char → Bool}

theorem splitBy_eq_splitOnP (p : Char → Bool) (cs : List Char) : splitBy p cs = cs.splitOnP p := by
  rw [splitBy, splitLoop_eq]
  rfl

theorem splitBy_ne_nil (p : Char → Bool) (cs : List Char) : splitBy p cs ≠ [] := by
  rw [splitBy_eq_splitOnP]
  exact List.splitOnP_ne_nil p cs

theorem splitBy_append_cons {c : Char} (hc : p c = true) (a b : List Char) :
    splitBy p (a ++ c :: b) = splitBy p a ++ splitBy p b := by
  simp only [splitBy_eq_splitOnP]
  exact List.splitOnP_append_cons a b hc

theorem splitBy_of_forall {cs : List Char} (h : ∀ c ∈ cs, p c = false) : splitBy p cs = [cs] := by
  rw [splitBy_eq_splitOnP]
  exact List.splitOnP_eq_singleton h

/-- A text is cut at its first separator, if it has one. -/
theorem split_induction {P : List Char → Prop} (whole : ∀ cs, (∀ c ∈ cs, p c = false) → P cs)
    (cut : ∀ a c b, (∀ x ∈ a, p x = false) → p c = true → P b → P (a ++ c :: b))
    (cs : List Char) : P cs := by
  induction hn : cs.length using Nat.strongRecOn generalizing cs with
  | ind n ih =>
    have hfront : ∀ x ∈ cs.takeWhile (fun c => !p c), p x = false := by
      intro x hx
      simpa using List.mem_takeWhile_imp hx
    have hcs := List.takeWhile_append_dropWhile (p := fun c => !p c) (l := cs)
    cases hrest : cs.dropWhile (fun c => !p c) with
    | nil =>
      rw [hrest, List.append_nil] at hcs
      rw [← hcs]
      exact whole _ hfront
    | cons c b =>
      have hc : p c = true := by
        have hhead := List.head_dropWhile_not (fun c => !p c) (l := cs) (by simp [hrest])
        simpa [hrest] using hhead
      rw [hrest] at hcs
      rw [← hcs] at hn ⊢
      exact cut _ c b hfront hc (ih b.length (by simp at hn; omega) b rfl)

theorem splitBy_cut {a : List Char} (ha : ∀ x ∈ a, p x = false) {c : Char} (hc : p c = true)
    (b : List Char) : splitBy p (a ++ c :: b) = a :: splitBy p b := by
  rw [splitBy_append_cons hc, splitBy_of_forall ha, List.singleton_append]

theorem of_mem_splitBy {cs piece : List Char} (h : piece ∈ splitBy p cs) :
    ∀ c ∈ piece, p c = false := by
  induction cs using split_induction (p := p) with
  | whole cs hcs =>
    rw [splitBy_of_forall hcs, List.mem_singleton] at h
    rwa [h]
  | cut a c b ha hc ih =>
    rw [splitBy_cut ha hc, List.mem_cons] at h
    rcases h with rfl | h
    · exact ha
    · exact ih h

end Text

namespace Web.Url

open Text

/-! ## Extents -/

/-- How long segments are as octets, each with the slash before it. -/
def extent : List (List Char) → Nat
  | [] => 0
  | s :: segments => (Utf8.octets s).length + 1 + extent segments

theorem extent_cons (s : List Char) (segments : List (List Char)) :
    extent (s :: segments) = (Utf8.octets s).length + 1 + extent segments := rfl

theorem extent_append (a b : List (List Char)) : extent (a ++ b) = extent a + extent b := by
  induction a with
  | nil => rw [List.nil_append, extent, Nat.zero_add]
  | cons s a ih =>
    rw [List.cons_append, extent_cons, extent_cons, ih]
    omega

theorem length_octets_isSlash {c : Char} (h : isSlash c = true) (cs : List Char) :
    (Utf8.octets (c :: cs)).length = 1 + (Utf8.octets cs).length := by
  have hsize : (String.utf8EncodeChar c).length = 1 := by
    simp only [isSlash, Bool.or_eq_true, beq_iff_eq] at h
    rcases h with rfl | rfl <;> rfl
  rw [Utf8.octets_cons, List.length_append, hsize]

theorem extent_splitBy (cs : List Char) :
    extent (splitBy isSlash cs) = (Utf8.octets cs).length + 1 := by
  induction cs using split_induction (p := isSlash) with
  | whole cs hcs =>
    rw [splitBy_of_forall hcs, extent_cons]
    rfl
  | cut a c b ha hc ih =>
    rw [splitBy_cut ha hc, extent_cons, ih, Utf8.octets_append, List.length_append,
      length_octets_isSlash hc]
    omega

def joined (names : List (List Char)) : List Char :=
  ['/'].intercalate names

theorem joined_singleton (name : List Char) : joined [name] = name := by
  simp [joined, List.intercalate]

theorem joined_cons_cons (name next : List Char) (names : List (List Char)) :
    joined (name :: next :: names) = name ++ '/' :: joined (next :: names) := by
  simp [joined, List.intercalate]

theorem extent_joined {names : List (List Char)} (hne : names ≠ []) :
    extent names = (Utf8.octets (joined names)).length + 1 := by
  induction names with
  | nil => exact absurd rfl hne
  | cons name names ih =>
    cases names with
    | nil => rw [joined_singleton, extent_cons]; rfl
    | cons next names =>
      rw [joined_cons_cons, extent_cons, ih (by simp), Utf8.octets_append, List.length_append,
        length_octets_isSlash rfl]
      omega

theorem splitBy_joined {names : List (List Char)} (hne : names ≠ [])
    (h : ∀ name ∈ names, ∀ c ∈ name, isSlash c = false) :
    splitBy isSlash (joined names) = names := by
  induction names with
  | nil => exact absurd rfl hne
  | cons name names ih =>
    rw [List.forall_mem_cons] at h
    cases names with
    | nil => rw [joined_singleton, splitBy_of_forall h.1]
    | cons next names => rw [joined_cons_cons, splitBy_cut h.1 rfl, ih (by simp) h.2]

theorem mem_joined {names : List (List Char)} {name : List Char} (h : name ∈ names) {c : Char}
    (hc : c ∈ name) : c ∈ joined names := by
  induction names with
  | nil => cases h
  | cons first names ih =>
    cases names with
    | nil =>
      rw [List.mem_singleton] at h
      rwa [joined_singleton, ← h]
    | cons next names =>
      rw [joined_cons_cons, List.mem_append, List.mem_cons]
      rcases List.mem_cons.mp h with rfl | h
      · exact Or.inl hc
      · exact Or.inr (Or.inr (ih h))

theorem of_mem_joined {names : List (List Char)} {c : Char} (h : c ∈ joined names) :
    c = '/' ∨ ∃ name ∈ names, c ∈ name := by
  induction names with
  | nil => cases h
  | cons first names ih =>
    cases names with
    | nil =>
      rw [joined_singleton] at h
      exact Or.inr ⟨first, List.mem_singleton_self first, h⟩
    | cons next names =>
      rw [joined_cons_cons, List.mem_append, List.mem_cons] at h
      rcases h with h | h | h
      · exact Or.inr ⟨first, List.mem_cons_self, h⟩
      · exact Or.inl h
      · rcases ih h with h | ⟨name, hname, h⟩
        · exact Or.inl h
        · exact Or.inr ⟨name, List.mem_cons_of_mem _ hname, h⟩

/-! ## Dot segments -/

def IsDots (s : List Char) : Prop :=
  isParent s = true ∨ isSelf s = true

theorem not_isDots_nil : ¬ IsDots [] := by
  unfold IsDots
  decide

theorem IsDots.ne_nil {s : List Char} (h : IsDots s) : s ≠ [] := by
  rintro rfl
  exact not_isDots_nil h

theorem eq_of_toLower {c d : Char} (h : c.toLower = d) :
    c = d ∨ c.toNat + 32 = d.toNat ∧ 0x61 ≤ d.toNat ∧ d.toNat ≤ 0x7A := by
  unfold Char.toLower at h
  split at h
  · rename_i hc
    simp only [ge_iff_le, UInt32.le_iff_toNat_le] at hc
    have hlow : ('A' : Char).val.toNat = 0x41 := rfl
    have hhigh : ('Z' : Char).val.toNat = 0x5A := rfl
    have hshift : ('a'.val - 'A'.val).toNat = 32 := rfl
    have hd : d.val.toNat = c.val.toNat + 32 := by
      rw [← h]
      show (c.val + ('a'.val - 'A'.val)).toNat = _
      rw [UInt32.toNat_add, hshift]
      omega
    refine Or.inr ?_
    rw [Char.toNat, Char.toNat]
    omega
  · exact Or.inl h

/-- A percent-encoded dot is a sequence. -/
theorem holdsEscape_of_dot {s : List Char} (h : "%2e".toList <:+: s.map Char.toLower) :
    Host.HoldsEscape s := by
  obtain ⟨front, back, heq⟩ := h
  obtain ⟨a, c, rfl, ha, -⟩ := List.map_eq_append_iff.mp heq.symm
  obtain ⟨a, b, rfl, -, hb⟩ := List.map_eq_append_iff.mp ha
  have hletters : "%2e".toList = ['%', '2', 'e'] := rfl
  rw [hletters] at hb
  obtain ⟨x, _, rfl, hx, hb⟩ := List.map_eq_cons_iff.mp hb
  obtain ⟨y, _, rfl, hy, hb⟩ := List.map_eq_cons_iff.mp hb
  obtain ⟨z, _, rfl, hz, hb⟩ := List.map_eq_cons_iff.mp hb
  rw [List.map_eq_nil_iff] at hb
  subst hb
  have hpercent : x = '%' :=
    (eq_of_toLower hx).resolve_right fun hr => absurd hr.2.1 (by decide)
  have htwo : y = '2' := (eq_of_toLower hy).resolve_right fun hr => absurd hr.2.1 (by decide)
  have hhex : Host.IsHex z := by
    rcases eq_of_toLower hz with rfl | ⟨hlow, -⟩
    · decide
    · have hupper : z = 'E' := Char.toNat_inj.mp (Nat.add_right_cancel hlow)
      rw [hupper]
      decide
  subst hpercent htwo
  exact ⟨'2', z, by decide, hhex, a, c, rfl⟩

/-- A segment without sequences is a dot segment only if it is one or two dots. -/
theorem IsDots.eq_dots {s : List Char} (h : IsDots s) (hs : ¬ Host.HoldsEscape s) :
    s = ['.'] ∨ s = ['.', '.'] := by
  have hdots : dots s = s.map Char.toLower :=
    replaceAll_of_not_infix fun hdot => hs (holdsEscape_of_dot hdot)
  have hdot : ∀ {c : Char}, c.toLower = '.' → c = '.' := fun hc =>
    (eq_of_toLower hc).resolve_right fun hr => absurd hr.2.1 (by decide)
  rw [IsDots, isParent, isSelf, hdots, beq_iff_eq, beq_iff_eq] at h
  rcases h with h | h
  · obtain ⟨x, _, rfl, hx, h⟩ := List.map_eq_cons_iff.mp h
    obtain ⟨y, _, rfl, hy, h⟩ := List.map_eq_cons_iff.mp h
    rw [List.map_eq_nil_iff] at h
    rw [hdot hx, hdot hy, h]
    exact Or.inr rfl
  · obtain ⟨x, _, rfl, hx, h⟩ := List.map_eq_cons_iff.mp h
    rw [List.map_eq_nil_iff] at h
    rw [hdot hx, h]
    exact Or.inl rfl

theorem isDots_self : IsDots ['.'] := by
  unfold IsDots
  decide

theorem isDots_parent : IsDots ['.', '.'] := by
  unfold IsDots
  decide

/-! ## Resolving -/

/-- Without dot segments nothing is resolved. -/
theorem resolve_of_forall (done : List (List Char)) {ps : List (List Char)}
    (h : ∀ s ∈ ps, ¬ IsDots s) : resolve done ps = done.reverse ++ ps := by
  fun_induction resolve done ps with
  | case1 done => simp
  | case2 done s hs => exact absurd (Or.inl hs) (h s List.mem_cons_self)
  | case3 done s _ hs => exact absurd (Or.inr hs) (h s List.mem_cons_self)
  | case4 done s _ _ => simp
  | case5 done s t rest hs _ => exact absurd (Or.inl hs) (h s List.mem_cons_self)
  | case6 done s t rest _ hs _ => exact absurd (Or.inr hs) (h s List.mem_cons_self)
  | case7 done s t rest _ _ ih => simp [ih fun x hx => h x (List.mem_cons_of_mem _ hx)]

theorem one_lt_extent {s : List Char} (h : IsDots s) : 1 < extent [s] := by
  obtain ⟨c, cs, rfl⟩ := List.exists_cons_of_ne_nil h.ne_nil
  have hpos := Host.length_octets_cons c cs
  rw [extent_cons]
  omega

/-- What is left of segments after some levels were left: fewer levels, and segments that are
shorter. -/
def Shortens (done ps result : List (List Char)) : Prop :=
  ∃ k rest, result = (done.drop k).reverse ++ rest ∧ extent rest < extent ps

/-- **A dot segment makes the segments shorter.** -/
theorem resolve_shortens (done : List (List Char)) {ps : List (List Char)}
    (h : ∃ s ∈ ps, IsDots s) : Shortens done ps (resolve done ps) := by
  -- where a dot segment comes first the rest may be free of them, and nothing else is resolved
  have hrest : ∀ {done s ps}, ((∃ s ∈ ps, IsDots s) → Shortens done ps (resolve done ps)) →
      Shortens done (s :: ps) (resolve done ps) := by
    intro done s ps ih
    by_cases hdots : ∃ s ∈ ps, IsDots s
    · obtain ⟨k, rest, heq, hlt⟩ := ih hdots
      exact ⟨k, rest, heq, by rw [extent_cons]; omega⟩
    · have hall : ∀ s ∈ ps, ¬ IsDots s := fun s hs hd => hdots ⟨s, hs, hd⟩
      exact ⟨0, ps, resolve_of_forall done hall, by rw [extent_cons]; omega⟩
  fun_induction resolve done ps with
  | case1 done => simp at h
  | case2 done s hs =>
    exact ⟨1, [[]], by simp, one_lt_extent (Or.inl hs)⟩
  | case3 done s _ hs => exact ⟨0, [[]], by simp, one_lt_extent (Or.inr hs)⟩
  | case4 done s hp hs =>
    obtain ⟨x, hx, hdots⟩ := h
    rw [List.mem_singleton] at hx
    subst hx
    exact absurd hdots (not_or.mpr ⟨hp, hs⟩)
  | case5 done s t rest hs ih =>
    obtain ⟨k, kept, heq, hlt⟩ := hrest (s := s) ih
    exact ⟨k + 1, kept, by rw [heq, List.drop_tail], hlt⟩
  | case6 done s t rest _ hs ih => exact hrest ih
  | case7 done s t rest hp hs ih =>
    obtain ⟨x, hx, hdots⟩ := h
    have htail : ∃ x ∈ t :: rest, IsDots x := by
      rcases List.mem_cons.mp hx with rfl | hx
      · exact absurd hdots (not_or.mpr ⟨hp, hs⟩)
      · exact ⟨x, hx, hdots⟩
    obtain ⟨k, kept, heq, hlt⟩ := ih htail
    cases k with
    | zero =>
      refine ⟨0, s :: kept, by simp [heq], ?_⟩
      rw [extent_cons, extent_cons]
      omega
    | succ k =>
      refine ⟨k, kept, by rw [heq, List.drop_succ_cons], ?_⟩
      rw [extent_cons]
      omega

/-! ## Names -/

/-- The characters that end or cut a segment, or are dropped from it. -/
def delimiters : List Char :=
  ['/', '\\', '?', '#', '\t', '\n', '\r']

/-- A name that stands in a path for itself. -/
structure IsSegment (name : List Char) : Prop where
  plain : ∀ c ∈ name, c ∉ delimiters
  ne_self : name ≠ ['.']
  ne_parent : name ≠ ['.', '.']
  unescaped : ¬ Host.HoldsEscape name

theorem IsSegment.not_isDots {name : List Char} (h : IsSegment name) : ¬ IsDots name := fun hdots =>
  (hdots.eq_dots h.unescaped).elim h.ne_self h.ne_parent

theorem IsSegment.not_isSlash {name : List Char} (h : IsSegment name) :
    ∀ c ∈ name, isSlash c = false := by
  intro c hc
  have hplain := h.plain c hc
  simp only [delimiters, List.mem_cons, not_or] at hplain
  simp [isSlash, hplain.1, hplain.2.1]

def sentSegment (s : List Char) : String :=
  String.ofList (percentEncode encodedInPath s)

/-- A segment, as it is sent, stands for a name. -/
def Names (segment : String) (name : List Char) : Prop :=
  Host.percentDecode [] segment.toList = Utf8.octets name

theorem names_sentSegment_iff {s name : List Char} :
    Names (sentSegment s) name ↔ Host.percentDecode [] s = Utf8.octets name := by
  rw [Names, sentSegment, String.toList_ofList,
    Host.percentDecode_percentEncode Host.sparesEscapes_encodedInPath]

theorem octets_injective : Function.Injective Utf8.octets := by
  intro a b h
  have hencode : Utf8.encode (String.ofList a) = Utf8.encode (String.ofList b) := by
    rw [Utf8.encode_eq_octets, Utf8.encode_eq_octets, String.toList_ofList, String.toList_ofList, h]
  have hdecode := congrArg Utf8.decode? hencode
  rw [Utf8.decode?_encode, Utf8.decode?_encode, Option.some.injEq] at hdecode
  exact String.ofList_injective hdecode

/-- A name that has no sequence is what its segment stands for. -/
theorem IsSegment.names {name : List Char} (h : IsSegment name) : Names (sentSegment name) name :=
  names_sentSegment_iff.mpr (Host.percentDecode_eq_octets_iff.mpr h.unescaped)

theorem Names.unique {segment : String} {a b : List Char} (ha : Names segment a)
    (hb : Names segment b) : a = b :=
  octets_injective (ha.symm.trans hb)

/-- Segments are no shorter than the names that they stand for. -/
theorem extent_le_of_names {ps names : List (List Char)}
    (h : List.Forall₂ Names (ps.map sentSegment) names) : extent names ≤ extent ps := by
  rw [List.forall₂_map_left_iff] at h
  induction h with
  | nil => exact Nat.le_refl _
  | @cons s name ps names hs _ ih =>
    have hle := Host.length_percentDecode_le s
    rw [names_sentSegment_iff.mp hs] at hle
    rw [extent_cons, extent_cons]
    omega

/-- Segments that are no longer than the names that they stand for are these names. -/
theorem eq_of_names {ps names : List (List Char)}
    (h : List.Forall₂ Names (ps.map sentSegment) names) (hext : extent ps ≤ extent names) :
    ps = names ∧ ∀ name ∈ names, ¬ Host.HoldsEscape name := by
  rw [List.forall₂_map_left_iff] at h
  induction h with
  | nil => exact ⟨rfl, by simp⟩
  | @cons s name ps names hs hps ih =>
    have hle := Host.length_percentDecode_le s
    have htail := extent_le_of_names (List.forall₂_map_left_iff.mpr hps)
    have hread := names_sentSegment_iff.mp hs
    rw [extent_cons, extent_cons] at hext
    rw [hread] at hle
    have hescape : ¬ Host.HoldsEscape s := by
      intro hholds
      have hlt := Host.length_percentDecode_lt hholds
      rw [hread] at hlt
      omega
    have heq : s = name :=
      octets_injective ((Host.percentDecode_of_not_holdsEscape hescape).symm.trans hread)
    obtain ⟨rfl, hall⟩ := ih (by omega)
    subst heq
    exact ⟨rfl, List.forall_mem_cons.mpr ⟨hescape, hall⟩⟩

theorem length_octets_le_of_sublist {a b : List Char} (h : a.Sublist b) :
    (Utf8.octets a).length ≤ (Utf8.octets b).length := by
  induction h with
  | slnil => exact Nat.le_refl _
  | cons c _ ih => exact Nat.le_of_lt (Nat.lt_of_le_of_lt ih (Host.length_octets_cons c _))
  | cons_cons c _ ih =>
    rw [Utf8.octets_cons, Utf8.octets_cons, List.length_append, List.length_append]
    omega

/-- A part of a text that takes as many octets is all of it. -/
theorem eq_of_sublist {a b : List Char} (h : a.Sublist b)
    (hlen : (Utf8.octets b).length ≤ (Utf8.octets a).length) : a = b := by
  induction h with
  | slnil => rfl
  | cons c hsub _ =>
    have hle := length_octets_le_of_sublist hsub
    have hlt := Host.length_octets_cons c
    exact absurd hlen (Nat.not_le.mpr (Nat.lt_of_le_of_lt hle (hlt _)))
  | cons_cons c _ ih =>
    rw [Utf8.octets_cons, Utf8.octets_cons, List.length_append, List.length_append] at hlen
    rw [ih (by omega)]

/-- **Names stand in a path only if nothing of it is lost**: what is left of the joined names is all
of them, no name is cut or resolved, and none holds a sequence. -/
theorem eq_joined_of_names {done names : List (List Char)} {t : List Char} {sent : List String}
    (hne : names ≠ []) (hsub : t.Sublist (joined names))
    (hpath : (resolve done (splitBy isSlash t)).map sentSegment =
      done.reverse.map sentSegment ++ sent)
    (hsent : List.Forall₂ Names sent names) :
    t = joined names ∧ splitBy isSlash t = names ∧
      ∀ name ∈ names, ¬ IsDots name ∧ ¬ Host.HoldsEscape name := by
  have hextent : extent (splitBy isSlash t) ≤ extent names := by
    have hle := length_octets_le_of_sublist hsub
    rw [extent_splitBy, extent_joined hne]
    omega
  by_cases hdots : ∃ s ∈ splitBy isSlash t, IsDots s
  · -- the names would have to come from segments that are shorter
    exfalso
    obtain ⟨k, rest, heq, hlt⟩ := resolve_shortens done hdots
    rw [heq, List.map_append] at hpath
    have hsuffix : sent <:+ rest.map sentSegment := by
      have hall : sent <:+ done.reverse.map sentSegment ++ sent := List.suffix_append _ _
      have hrest : rest.map sentSegment <:+ done.reverse.map sentSegment ++ sent :=
        hpath ▸ List.suffix_append _ _
      have hlength := congrArg List.length hpath
      simp only [List.length_append, List.length_map, List.length_reverse, List.length_drop]
        at hlength
      exact List.suffix_of_suffix_length_le hall hrest (by rw [List.length_map]; omega)
    obtain ⟨front, hfront⟩ := hsuffix
    obtain ⟨a, b, rfl, -, rfl⟩ := List.map_eq_append_iff.mp hfront.symm
    have hle := extent_le_of_names hsent
    rw [extent_append] at hlt
    omega
  · have hall : ∀ s ∈ splitBy isSlash t, ¬ IsDots s := fun s hs hd => hdots ⟨s, hs, hd⟩
    rw [resolve_of_forall done hall, List.map_append] at hpath
    rw [← List.append_cancel_left hpath] at hsent
    obtain ⟨hnames, hescape⟩ := eq_of_names hsent hextent
    refine ⟨?_, hnames, fun name hname => ⟨hall name (hnames ▸ hname), hescape name hname⟩⟩
    have hext := extent_splitBy t
    rw [hnames, extent_joined hne] at hext
    exact eq_of_sublist hsub (by omega)

/-- Names that stand for themselves stand in a path. -/
theorem names_of_isSegment (done : List (List Char)) {names : List (List Char)} (hne : names ≠ [])
    (h : ∀ name ∈ names, IsSegment name) : ∃ sent,
      (resolve done (splitBy isSlash (joined names))).map sentSegment =
        done.reverse.map sentSegment ++ sent ∧ List.Forall₂ Names sent names := by
  refine ⟨names.map sentSegment, ?_, ?_⟩
  · rw [splitBy_joined hne fun name hname => (h name hname).not_isSlash,
      resolve_of_forall done fun name hname => (h name hname).not_isDots, List.map_append]
  · rw [List.forall₂_map_left_iff, List.forall₂_same]
    exact fun name hname => (h name hname).names

end Web.Url

end ArchDiagram
