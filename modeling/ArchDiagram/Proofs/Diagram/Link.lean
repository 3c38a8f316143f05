import ArchDiagram.Diagram.Link
import ArchDiagram.Proofs.Text.Trim
import Mathlib.Data.List.Forall2

/-!
# Directives of a diagram

A directive is a word, a node, a gap and a path between quotes.  A diagram is cut at its leftmost
directives that do not overlap (`IsCut`).  Whether a directive begins in the text before one that
has been found depends on this text alone (`startsDirective_append`): it would have to end there,
or to have its path opened there, in which case the next quote closes it, wherever that stands.
The word itself does not help, since a node that is called like it is followed by a blank and
never by a quote.  So a directive may be replaced by any other one, and the cut stays where it was.

* `Directive`, `IsCut`, `CutsInto`: what a diagram consists of.
* `clickAt_text`, `clickAt_eq_none_iff`: what the recogniser finds.
* `IsCut.replace`: **replaced directives are found again, and nothing else is**.
* `Place.link`, `Relinks`: the link of a node, and a directive that it replaces.
* `linkPaths_directives`: **links change the gaps and paths of the directives of a diagram, and
  nothing else**.
-/

namespace ArchDiagram.Diagram

open Text

/-! ## Directives -/

/-- A directive up to the quote that opens its path. -/
structure Opening where
  node : List Char
  gap : List Char
  node_ne_nil : node ≠ []
  node_plain : ∀ c ∈ node, isBlank c = false ∧ c ≠ '"'
  gap_ne_nil : gap ≠ []
  gap_blank : ∀ c ∈ gap, isBlank c = true

/-- A directive that links a node to a path. -/
structure Directive extends Opening where
  path : List Char
  path_ne_nil : path ≠ []
  path_unquoted : '"' ∉ path

def Opening.text (o : Opening) : List Char :=
  clickWord ++ (o.node ++ (o.gap ++ ['"']))

def Directive.text (d : Directive) : List Char :=
  d.toOpening.text ++ (d.path ++ ['"'])

def Directive.click (d : Directive) : Click :=
  ⟨d.node, d.path⟩

def StartsDirective (cs : List Char) : Prop :=
  ∃ d : Directive, d.text <+: cs

/-- No directive begins in `before` if `after` follows it. -/
def Quiet (before after : List Char) : Prop :=
  ∀ b, b ≠ [] → b <:+ before → ¬ StartsDirective (b ++ after)

/-- Directives, each with the text between it and the one before. -/
abbrev Parts := List (List Char × Directive)

def Parts.text (parts : Parts) : List Char :=
  parts.flatMap fun q => q.1 ++ q.2.text

/-- A text is cut into its leftmost directives that do not overlap, and what follows the last. -/
inductive IsCut : List Char → Parts → List Char → Prop
  | last {cs : List Char} : Quiet cs [] → IsCut cs [] cs
  | next {before rest last : List Char} {d : Directive} {parts : Parts} :
      Quiet before (d.text ++ rest) → IsCut rest parts last →
      IsCut (before ++ (d.text ++ rest)) ((before, d) :: parts) last

/-- A text is cut into these parts, and in no other way. -/
structure CutsInto (cs : List Char) (parts : Parts) (last : List Char) : Prop where
  eq_text : cs = Parts.text parts ++ last
  iff : ∀ parts' last', IsCut cs parts' last' ↔ parts' = parts ∧ last' = last

/-- No quote stands in the parts of an address that name the repository and its branch. -/
def Place.IsUnquoted (p : Place) : Prop :=
  '"' ∉ p.owner.toList ∧ '"' ∉ p.repo.toList ∧ '"' ∉ p.branch.toList

instance : DecidablePred Place.IsUnquoted := fun _ => inferInstanceAs (Decidable (_ ∧ _))

/-- The link of a node to a path, which is shown as a file if it has a dot and does not end in a
slash, and as a directory otherwise. -/
def Place.link (p : Place) (node path : List Char) : List Char :=
  let kind := if '.' ∈ path ∧ path.getLast? ≠ some '/' then "blob" else "tree"
  "click ".toList ++ node ++ [' ', '"'] ++
    ("https://github.com/" ++ p.owner ++ "/" ++ p.repo ++ "/" ++ kind ++ "/" ++ p.branch ++
      "/").toList ++ path ++ ['"']

/-- A path is stripped of the blanks around it, and what is left of the quotation marks around
that. -/
def StripsTo (path core : List Char) : Prop :=
  ∃ middle blanks blanks' quotes quotes', path = blanks ++ (middle ++ blanks') ∧
    middle = quotes ++ (core ++ quotes') ∧ IsTrimmed isBlank middle ∧ IsTrimmed isQuote core ∧
    (∀ c ∈ blanks ++ blanks', isBlank c = true) ∧ ∀ c ∈ quotes ++ quotes', isQuote c = true

/-- A directive and the text before it, of which the directive is replaced by the link of its node
to the path that is left of its own. -/
structure Relinks (p : Place) (q q' : List Char × Directive) : Prop where
  before : q'.1 = q.1
  node : q'.2.node = q.2.node
  text : ∃ path, StripsTo q.2.path path ∧ q'.2.text = p.link q.2.node path

/-! ## What the recogniser finds -/

/-- The characters of nodes. -/
def isPlain (c : Char) : Bool :=
  !isBlank c && c != '"'

theorem isPlain_iff {c : Char} : isPlain c = true ↔ isBlank c = false ∧ c ≠ '"' := by
  simp [isPlain]

section Opening

variable (o : Opening) (tail : List Char)

theorem Opening.node_isPlain : ∀ c ∈ o.node, isPlain c = true :=
  fun c hc => isPlain_iff.mpr (o.node_plain c hc)

theorem Opening.stops_gap : Stops isPlain (o.gap ++ tail) := by
  obtain ⟨c, cs, hgap⟩ := List.exists_cons_of_ne_nil o.gap_ne_nil
  have hc := o.gap_blank c (by rw [hgap]; exact List.mem_cons_self)
  rw [hgap, List.cons_append, stops_cons]
  simp [isPlain, hc]

theorem stops_quote : Stops isBlank ('"' :: tail) :=
  stops_cons.mpr rfl

theorem isBlank_space : ∀ c ∈ [' '], isBlank c = true :=
  List.forall_mem_singleton.mpr rfl

theorem isPlain_click : ∀ c ∈ ['c', 'l', 'i', 'c', 'k'], isPlain c = true :=
  List.all_eq_true.mp rfl

theorem Opening.text_append :
    o.text ++ tail = clickWord ++ (o.node ++ (o.gap ++ '"' :: tail)) := by
  simp [text]

theorem Opening.unquoted : '"' ∉ clickWord ++ (o.node ++ o.gap) := by
  have hnode : '"' ∉ o.node := fun hm => (o.node_plain _ hm).2 rfl
  have hgap : '"' ∉ o.gap := fun hm => absurd (o.gap_blank _ hm) (by decide)
  have hword : '"' ∉ clickWord := by
    decide
  simp [hnode, hgap, hword]

/-- The node and the gap of an opening can be told from its text. -/
theorem Opening.unique {o o' : Opening} {tail tail' : List Char}
    (h : o.text ++ tail = o'.text ++ tail') : o = o' ∧ tail = tail' := by
  rw [o.text_append, o'.text_append] at h
  have hword := List.append_cancel_left h
  obtain ⟨hnode, hgap⟩ := append_inj_of_class hword o.node_isPlain (o.stops_gap _)
    o'.node_isPlain (o'.stops_gap _)
  obtain ⟨hgap, htail⟩ := append_inj_of_class hgap o.gap_blank (stops_quote _)
    o'.gap_blank (stops_quote _)
  obtain ⟨node, gap, _, _, _, _⟩ := o
  obtain ⟨node', gap', _, _, _, _⟩ := o'
  cases hnode
  cases hgap
  exact ⟨rfl, (List.cons.inj htail).2⟩

end Opening

/-- The characters of paths. -/
def isInner (c : Char) : Bool :=
  c != '"'

theorem isInner_of_unquoted {cs : List Char} (h : '"' ∉ cs) : ∀ c ∈ cs, isInner c = true := by
  intro c hc
  have hne : c ≠ '"' := fun heq => h (heq ▸ hc)
  simp [isInner, hne]

theorem stops_inner (tail : List Char) : Stops isInner ('"' :: tail) :=
  stops_cons.mpr rfl

theorem Directive.text_append (d : Directive) (tail : List Char) :
    d.text ++ tail = d.toOpening.text ++ (d.path ++ '"' :: tail) := by
  simp [text]

/-- A directive can be told from its text, whatever follows it. -/
theorem Directive.unique {d d' : Directive} {tail tail' : List Char}
    (h : d.text ++ tail = d'.text ++ tail') : d = d' ∧ tail = tail' := by
  rw [d.text_append, d'.text_append] at h
  obtain ⟨hopening, hpath⟩ := Opening.unique h
  obtain ⟨hpath, htail⟩ := append_inj_of_class hpath (isInner_of_unquoted d.path_unquoted)
    (stops_inner _) (isInner_of_unquoted d'.path_unquoted) (stops_inner _)
  obtain ⟨_, path, _, _⟩ := d
  obtain ⟨_, path', _, _⟩ := d'
  cases hopening
  cases hpath
  exact ⟨rfl, (List.cons.inj htail).2⟩

theorem clickAt_text (d : Directive) (rest : List Char) :
    clickAt (d.text ++ rest) = some (d.click, d.text.length - 1) := by
  have hword := dropFront?_eq_some_iff.mpr (d.text_append rest ▸ d.toOpening.text_append _)
  have hnode := takeWhile_append_of_stops d.node_isPlain
    (d.stops_gap ('"' :: (d.path ++ '"' :: rest)))
  have hgap := takeWhile_append_of_stops d.gap_blank (stops_quote (d.path ++ '"' :: rest))
  have hpath := takeWhile_append_of_stops (isInner_of_unquoted d.path_unquoted) (stops_inner rest)
  unfold isPlain at hnode
  unfold isInner at hpath
  have hquote : dropFront? ['"'] ('"' :: (d.path ++ '"' :: rest)) = some (d.path ++ '"' :: rest) :=
    dropFront?_eq_some_iff.mpr rfl
  have hlength : d.text.length - 1 =
      clickWord.length + d.node.length + d.gap.length + d.path.length + 1 := by
    simp [Directive.text, Opening.text]
    omega
  rw [clickAt, hword]
  simp only [Option.bind_eq_bind, Option.bind_some, hnode, hgap, hpath, hquote, List.drop_left,
    d.node_ne_nil, d.gap_ne_nil, d.path_ne_nil, hlength, Directive.click]
  simp

theorem startsDirective_of_clickAt {cs : List Char} (h : clickAt cs ≠ none) :
    StartsDirective cs := by
  obtain ⟨found, hfound⟩ := Option.ne_none_iff_exists'.mp h
  rw [clickAt, Option.bind_eq_bind, Option.bind_eq_some_iff] at hfound
  obtain ⟨afterWord, hword, hfound⟩ := hfound
  obtain ⟨node, afterNode, hnode, hafterNode, rfl, hplain, -⟩ := exists_front isPlain afterWord
  obtain ⟨gap, afterGap, hgap, hafterGap, rfl, hblank, -⟩ := exists_front isBlank afterNode
  unfold isPlain at hnode
  simp only [hnode, hafterNode, hgap, hafterGap, Option.bind_eq_some_iff] at hfound
  obtain ⟨quoted, hquote, hfound⟩ := hfound
  obtain ⟨path, afterPath, hpath, hafterPath, rfl, hinner, hstops⟩ := exists_front isInner quoted
  unfold isInner at hpath
  simp only [hpath, hafterPath] at hfound
  rw [dropFront?_eq_some_iff] at hword hquote
  split at hfound
  · cases hfound
  · rename_i hne
    simp only [not_or] at hne
    obtain ⟨hnode', hgap', hpath', hrest⟩ := hne
    -- something follows the path, so that it has ended at a quote
    obtain ⟨c, rest, rfl⟩ := List.exists_cons_of_ne_nil hrest
    have hc : c = '"' := by
      simpa [isInner] using stops_cons.mp hstops
    let d : Directive :=
      { node, gap, path, node_ne_nil := hnode', gap_ne_nil := hgap', path_ne_nil := hpath',
        node_plain := fun c hc => isPlain_iff.mp (hplain c hc),
        gap_blank := hblank,
        path_unquoted := fun hm => absurd (hinner _ hm) (by decide) }
    refine ⟨d, rest, ?_⟩
    rw [d.text_append, d.toOpening.text_append, hword, hquote, hc]
    rfl

theorem clickAt_eq_none_iff {cs : List Char} : clickAt cs = none ↔ ¬ StartsDirective cs := by
  constructor
  · rintro h ⟨d, rest, rfl⟩
    rw [clickAt_text] at h
    cases h
  · intro h
    by_contra hne
    exact h (startsDirective_of_clickAt hne)

/-! ## Text before a directive -/

theorem clickWord_overlap {b t y z : List Char} (hb : b ≠ []) (hword : clickWord = b ++ t)
    (h : t ++ y = clickWord ++ z) : t = [] := by
  have hdrop : t = clickWord.drop b.length := by
    rw [hword, List.drop_left]
  have hlength : b.length + t.length = clickWord.length := by
    rw [hword, List.length_append]
  have hstart : t <+: clickWord :=
    List.prefix_of_prefix_length_le ⟨y, h⟩ (List.prefix_append clickWord z) (by omega)
  have hnone : ∀ k < clickWord.length, 0 < k → ¬ clickWord.drop k <+: clickWord := by
    decide
  by_contra ht
  have hpos := List.length_pos_iff.mpr hb
  have htpos := List.length_pos_iff.mpr ht
  rw [hdrop] at hstart
  exact hnone b.length (by omega) hpos hstart

section Overlap

variable (d : Directive) (rest : List Char)

theorem Directive.text_eq :
    d.text ++ rest = clickWord ++ (d.node ++ (d.gap ++ '"' :: (d.path ++ '"' :: rest))) := by
  rw [d.text_append, d.toOpening.text_append]

/-- A directive does not begin with a quote or a blank. -/
theorem Directive.head_ne {c : Char} {cs : List Char} (h : c :: cs = d.text ++ rest) :
    c ≠ '"' ∧ isBlank c = false := by
  rw [d.text_eq] at h
  rw [(List.cons.inj h).1]
  decide

/-- A directive does not begin with a node, its gap and a quote: the node would be the word, and
what follows the blank behind it is a node again. -/
theorem Directive.node_overlap (o : Opening) {n tail : List Char}
    (hn : ∀ c ∈ n, isPlain c = true) : n ++ (o.gap ++ '"' :: tail) ≠ d.text ++ rest := by
  intro h
  have hword : d.text ++ rest = ['c', 'l', 'i', 'c', 'k'] ++
      ([' '] ++ (d.node ++ (d.gap ++ '"' :: (d.path ++ '"' :: rest)))) := d.text_eq rest
  rw [hword] at h
  obtain ⟨-, hgap⟩ := append_inj_of_class h hn (o.stops_gap _) isPlain_click
    (stops_cons.mpr rfl)
  obtain ⟨c, cs, hnode⟩ := List.exists_cons_of_ne_nil d.node_ne_nil
  have hplain := d.node_plain c (by rw [hnode]; exact List.mem_cons_self)
  rw [hnode] at hgap
  obtain ⟨-, hquote⟩ := append_inj_of_class hgap o.gap_blank (stops_quote _) isBlank_space
    (stops_cons.mpr hplain.1)
  exact hplain.2 (List.cons.inj hquote).1.symm

end Overlap

/-- An opening that begins in front of a directive ends there. -/
theorem Opening.ends_before {o : Opening} {b tail rest : List Char} {d : Directive} (hb : b ≠ [])
    (h : o.text ++ tail = b ++ (d.text ++ rest)) :
    ∃ q, b = o.text ++ q ∧ tail = q ++ (d.text ++ rest) := by
  rw [o.text_append] at h
  -- each part of the opening in turn ends before the directive begins
  have hword : ∃ b₁, b = clickWord ++ b₁ ∧
      o.node ++ (o.gap ++ '"' :: tail) = b₁ ++ (d.text ++ rest) := by
    rcases List.append_eq_append_iff.mp h with hend | ⟨t, hword, htail⟩
    · exact hend
    · have ht := clickWord_overlap hb hword (htail.symm.trans (d.text_eq rest))
      rw [ht, List.append_nil] at hword
      rw [ht, List.nil_append] at htail
      exact ⟨[], by rw [hword, List.append_nil], htail.symm⟩
  obtain ⟨b₁, rfl, h₁⟩ := hword
  have hnode : ∃ b₂, b₁ = o.node ++ b₂ ∧ o.gap ++ '"' :: tail = b₂ ++ (d.text ++ rest) := by
    rcases List.append_eq_append_iff.mp h₁ with hend | ⟨n, hnode, htail⟩
    · exact hend
    · have hn : ∀ c ∈ n, isPlain c = true := fun c hc =>
        o.node_isPlain c (by rw [hnode]; exact List.mem_append_right _ hc)
      exact absurd htail.symm (d.node_overlap rest o hn)
  obtain ⟨b₂, rfl, h₂⟩ := hnode
  have hgap : ∃ b₃, b₂ = o.gap ++ b₃ ∧ '"' :: tail = b₃ ++ (d.text ++ rest) := by
    rcases List.append_eq_append_iff.mp h₂ with hend | ⟨g, hgap, htail⟩
    · exact hend
    · cases g with
      | nil => exact absurd rfl (d.head_ne rest htail.symm).1
      | cons c g =>
        have hblank := o.gap_blank c (by rw [hgap]; simp)
        rw [(d.head_ne rest htail.symm).2] at hblank
        cases hblank
  obtain ⟨b₃, rfl, h₃⟩ := hgap
  cases b₃ with
  | nil => exact absurd rfl (d.head_ne rest h₃).1
  | cons c q =>
    obtain ⟨rfl, rfl⟩ := List.cons.inj h₃
    exact ⟨q, (o.text_append q).symm, rfl⟩

/-- A directive is opened in a text, and its path is still open at the end. -/
def LeavesOpen (b : List Char) : Prop :=
  ∃ (o : Opening) (q : List Char), '"' ∉ q ∧ b = o.text ++ q

/-- **Whether a directive begins at a place in front of another one does not depend on the other
one.** -/
theorem startsDirective_append {b : List Char} (hb : b ≠ []) (d : Directive) (rest : List Char) :
    StartsDirective (b ++ (d.text ++ rest)) ↔ StartsDirective b ∨ LeavesOpen b := by
  constructor
  · rintro ⟨e, y, h⟩
    rw [e.text_append] at h
    obtain ⟨q, rfl, hpath⟩ := Opening.ends_before hb h
    rcases append_eq_append_cons hpath.symm with ⟨t, hpath, -⟩ | ⟨q', rfl, -⟩
    · have hq : '"' ∉ q := fun hm =>
        e.path_unquoted (by rw [hpath]; exact List.mem_append_left _ hm)
      exact Or.inr ⟨e.toOpening, q, hq, rfl⟩
    · exact Or.inl ⟨e, q', e.text_append q'⟩
  · rintro (h | ⟨o, q, hq, rfl⟩)
    · obtain ⟨e, he⟩ := h
      exact ⟨e, he.trans (List.prefix_append b _)⟩
    · have hunquoted : '"' ∉ q ++ (clickWord ++ (d.node ++ d.gap)) := by
        rw [List.mem_append]
        exact not_or.mpr ⟨hq, d.unquoted⟩
      let e : Directive :=
        { toOpening := o, path := q ++ (clickWord ++ (d.node ++ d.gap)),
          path_ne_nil := by simp [d.node_ne_nil], path_unquoted := hunquoted }
      refine ⟨e, d.path ++ '"' :: rest, ?_⟩
      rw [e.text_append, d.text_eq]
      simp [e]

theorem Quiet.replace {before rest : List Char} {d : Directive} (h : Quiet before (d.text ++ rest))
    (d' : Directive) (rest' : List Char) : Quiet before (d'.text ++ rest') := by
  intro b hb hsuffix hstarts
  refine h b hb hsuffix ?_
  rw [startsDirective_append hb] at hstarts ⊢
  exact hstarts

/-! ## Cuts -/

theorem quiet_nil (after : List Char) : Quiet [] after :=
  fun _ hb hsuffix => absurd (List.suffix_nil.mp hsuffix) hb

theorem quiet_cons {c : Char} {before after : List Char} : Quiet (c :: before) after ↔
    ¬ StartsDirective (c :: (before ++ after)) ∧ Quiet before after := by
  constructor
  · intro h
    refine ⟨h _ (List.cons_ne_nil _ _) List.suffix_rfl, ?_⟩
    intro b hb hsuffix
    exact h b hb (hsuffix.trans (List.suffix_cons c before))
  · rintro ⟨hc, h⟩ b hb hsuffix
    rcases List.suffix_cons_iff.mp hsuffix with rfl | hsuffix
    · exact hc
    · exact h b hb hsuffix

/-- In a text either no directive begins, or there is a leftmost one. -/
theorem quiet_or_leftmost (cs : List Char) : Quiet cs [] ∨
    ∃ before d rest, cs = before ++ (Directive.text d ++ rest) ∧ Quiet before (d.text ++ rest) := by
  induction cs with
  | nil => exact Or.inl (quiet_nil [])
  | cons c cs ih =>
    by_cases hc : StartsDirective (c :: cs)
    · obtain ⟨d, rest, h⟩ := hc
      exact Or.inr ⟨[], d, rest, h.symm, quiet_nil _⟩
    · rcases ih with h | ⟨before, d, rest, rfl, h⟩
      · exact Or.inl (quiet_cons.mpr ⟨by rw [List.append_nil]; exact hc, h⟩)
      · exact Or.inr ⟨c :: before, d, rest, rfl, quiet_cons.mpr ⟨hc, h⟩⟩

theorem Directive.text_ne_nil (d : Directive) : d.text ≠ [] := by
  simp [text]

theorem exists_cut (cs : List Char) : ∃ parts last, IsCut cs parts last := by
  induction hn : cs.length using Nat.strong_induction_on generalizing cs with
  | _ n ih =>
    rcases quiet_or_leftmost cs with h | ⟨before, d, rest, rfl, h⟩
    · exact ⟨[], cs, .last h⟩
    · have hpos := List.length_pos_iff.mpr d.text_ne_nil
      have hlt : rest.length < n := by
        simp only [List.length_append] at hn
        omega
      obtain ⟨parts, last, hcut⟩ := ih rest.length hlt rest rfl
      exact ⟨(before, d) :: parts, last, .next h hcut⟩

theorem Directive.startsDirective (d : Directive) (rest : List Char) :
    StartsDirective (d.text ++ rest) :=
  ⟨d, List.prefix_append _ _⟩

theorem Quiet.eq_nil_of_starts {before t after : List Char} (h : Quiet (before ++ t) after)
    (ht : StartsDirective (t ++ after)) : t = [] := by
  by_contra hne
  exact h t hne (List.suffix_append before t) ht

theorem leftmost_unique {before before' rest rest' : List Char} {d d' : Directive}
    (h : Quiet before (d.text ++ rest)) (h' : Quiet before' (d'.text ++ rest'))
    (heq : before ++ (d.text ++ rest) = before' ++ (d'.text ++ rest')) :
    before = before' ∧ d = d' ∧ rest = rest' := by
  rcases List.append_eq_append_iff.mp heq with ⟨t, rfl, htext⟩ | ⟨t, rfl, htext⟩
  · have ht : t = [] := h'.eq_nil_of_starts (htext ▸ d.startsDirective rest)
    rw [ht, List.nil_append] at htext
    exact ⟨by rw [ht, List.append_nil], Directive.unique htext⟩
  · have ht : t = [] := h.eq_nil_of_starts (htext ▸ d'.startsDirective rest')
    rw [ht, List.nil_append] at htext
    obtain ⟨hd, hrest⟩ := Directive.unique htext
    exact ⟨by rw [ht, List.append_nil], hd.symm, hrest.symm⟩

namespace IsCut

variable {cs last : List Char} {parts : Parts}

theorem eq_text (h : IsCut cs parts last) : cs = parts.text ++ last := by
  induction h with
  | last _ => rfl
  | next _ _ ih =>
    rw [ih]
    simp [Parts.text]

theorem unique (h : IsCut cs parts last) {parts' : Parts} {last' : List Char}
    (h' : IsCut cs parts' last') : parts' = parts ∧ last' = last := by
  have hnone : ∀ {before rest : List Char} {d : Directive},
      ¬ Quiet (before ++ (d.text ++ rest)) [] := by
    intro before rest d hquiet
    have hnil := hquiet.eq_nil_of_starts (by simpa using d.startsDirective rest)
    simp [d.text_ne_nil] at hnil
  induction h generalizing parts' with
  | last hquiet =>
    cases h' with
    | last _ => exact ⟨rfl, rfl⟩
    | next _ _ => exact absurd hquiet hnone
  | @next before rest last d parts hquiet _ ih =>
    generalize hcs : before ++ (d.text ++ rest) = cs at h'
    cases h' with
    | last hquiet' =>
      rw [← hcs] at hquiet'
      exact absurd hquiet' hnone
    | next hquiet' hcut' =>
      obtain ⟨rfl, rfl, rfl⟩ := leftmost_unique hquiet hquiet' hcs
      obtain ⟨rfl, rfl⟩ := ih hcut'
      exact ⟨rfl, rfl⟩

theorem cutsInto (h : IsCut cs parts last) : CutsInto cs parts last := by
  refine ⟨h.eq_text, ?_⟩
  intro parts' last'
  constructor
  · exact h.unique
  · rintro ⟨rfl, rfl⟩
    exact h

/-- **Directives that are replaced by others are found again, and nothing else is.** -/
theorem replace (h : IsCut cs parts last) (f : Directive → Directive) :
    IsCut (Parts.text (parts.map fun q => (q.1, f q.2)) ++ last)
      (parts.map fun q => (q.1, f q.2)) last := by
  induction h with
  | last hquiet => exact .last hquiet
  | @next before rest last d parts hquiet _ ih =>
    have hcut := IsCut.next (hquiet.replace (f d) _) ih
    simpa [Parts.text] using hcut

end IsCut

/-! ## Links -/

theorem isFile_iff (path : List Char) :
    isFile path = true ↔ '.' ∈ path ∧ path.getLast? ≠ some '/' := by
  simp [isFile]

theorem kind_eq (path : List Char) : (if isFile path = true then "blob" else "tree") =
    if '.' ∈ path ∧ path.getLast? ≠ some '/' then "blob" else "tree" :=
  if_congr (isFile_iff path) rfl rfl

/-- A directive is linked to what is left of its path. -/
theorem Click.linked_eq_link (p : Place) (k : Click) : k.linked p = p.link k.node k.cleanPath := by
  unfold Click.linked Place.address Place.link
  simp only [kind_eq, clickWord, List.append_assoc]

/-- The text of a diagram in which every directive links to the address of its path. -/
def relinked (p : Place) (cs : List Char) : List Char :=
  assemble (Click.linked p) (pieces clickAt cs)

theorem Quiet.clickAt_eq {before after b : List Char} (h : Quiet before after) (hb : b ≠ [])
    (hsuffix : b <:+ before) : clickAt (b ++ after) = none :=
  clickAt_eq_none_iff.mpr (h b hb hsuffix)

theorem pieces_text (d : Directive) (rest : List Char) :
    pieces clickAt (d.text ++ rest) = .found d.click :: pieces clickAt rest := by
  have hfound := clickAt_text d rest
  obtain ⟨c, cs, hc⟩ := List.exists_cons_of_ne_nil d.text_ne_nil
  rw [hc, List.cons_append] at hfound ⊢
  rw [pieces_cons_of_some hfound, List.length_cons, Nat.add_sub_cancel, List.drop_left]

theorem relinked_of_quiet (p : Place) {cs : List Char} (h : Quiet cs []) :
    relinked p cs = cs := by
  have hpieces := pieces_append fun _ => h.clickAt_eq
  rw [List.append_nil, pieces_nil, List.append_nil] at hpieces
  rw [relinked, hpieces, assemble_char]

theorem relinked_append (p : Place) {before rest : List Char} {d : Directive}
    (h : Quiet before (d.text ++ rest)) :
    relinked p (before ++ (d.text ++ rest)) = before ++ (d.click.linked p ++ relinked p rest) := by
  rw [relinked, pieces_append fun _ => h.clickAt_eq, pieces_text, assemble_append, assemble_char]
  rfl

theorem unquoted_address {p : Place} (hp : p.IsUnquoted) {path : List Char} (h : '"' ∉ path) :
    '"' ∉ p.address path := by
  obtain ⟨howner, hrepo, hbranch⟩ := hp
  unfold Place.address
  split <;> simp [howner, hrepo, hbranch, h]

def Directive.linked (p : Place) (hp : p.IsUnquoted) (d : Directive) : Directive where
  node := d.node
  gap := [' ']
  path := p.address d.click.cleanPath
  node_ne_nil := d.node_ne_nil
  node_plain := d.node_plain
  gap_ne_nil := List.cons_ne_nil _ _
  gap_blank := isBlank_space
  path_ne_nil := by simp [Place.address]
  path_unquoted := unquoted_address hp fun hm =>
    d.path_unquoted (mem_of_mem_trimBy (mem_of_mem_trimBy hm))

theorem Directive.text_linked (p : Place) (hp : p.IsUnquoted) (d : Directive) :
    (d.linked p hp).text = d.click.linked p := by
  simp [text, Opening.text, linked, Click.linked, click]

theorem IsCut.relinked_text {cs last : List Char} {parts : Parts} (h : IsCut cs parts last)
    (p : Place) : relinked p cs = parts.flatMap (fun q => q.1 ++ q.2.click.linked p) ++ last := by
  induction h with
  | last hquiet => exact relinked_of_quiet p hquiet
  | next hquiet _ ih =>
    rw [relinked_append p hquiet, ih]
    simp

theorem IsCut.relinked_eq {cs last : List Char} {parts : Parts} (h : IsCut cs parts last)
    (p : Place) (hp : p.IsUnquoted) :
    relinked p cs = Parts.text (parts.map fun q => (q.1, q.2.linked p hp)) ++ last := by
  rw [h.relinked_text p, Parts.text, List.flatMap_map]
  simp only [Directive.text_linked]

theorem toList_linkPaths (p : Place) (diagram : String) :
    (linkPaths p diagram).toList = relinked p diagram.toList := by
  simp [linkPaths, relinked]

theorem Click.stripsTo (k : Click) : StripsTo k.path k.cleanPath := by
  obtain ⟨blanks, blanks', hpath, hblanks, hblanks', hmiddle⟩ := exists_trimBy isBlank k.path
  obtain ⟨quotes, quotes', heq, hquotes, hquotes', hcore⟩ :=
    exists_trimBy isQuote (trimBy isBlank k.path)
  exact ⟨_, blanks, blanks', quotes, quotes', hpath, heq, hmiddle, hcore,
    List.forall_mem_append.mpr ⟨hblanks, hblanks'⟩, List.forall_mem_append.mpr ⟨hquotes, hquotes'⟩⟩

theorem Directive.relinks (p : Place) (hp : p.IsUnquoted) (before : List Char) (d : Directive) :
    Relinks p (before, d) (before, d.linked p hp) where
  before := rfl
  node := rfl
  text := ⟨d.click.cleanPath, d.click.stripsTo, by rw [text_linked, Click.linked_eq_link]; rfl⟩

/-- **A diagram and the one with links are cut alike**: between the same texts, each directive of
the one is replaced by the link of its node to its path, and neither is cut in another way. -/
theorem linkPaths_directives (p : Place) (hp : p.IsUnquoted) (diagram : String) :
    ∃ parts parts' last, CutsInto diagram.toList parts last ∧
      CutsInto (linkPaths p diagram).toList parts' last ∧
      List.Forall₂ (Relinks p) parts parts' := by
  obtain ⟨parts, last, hcut⟩ := exists_cut diagram.toList
  refine ⟨parts, parts.map fun q => (q.1, q.2.linked p hp), last, hcut.cutsInto, ?_, ?_⟩
  · rw [toList_linkPaths, hcut.relinked_eq p hp]
    exact (hcut.replace _).cutsInto
  · rw [List.forall₂_map_right_iff, List.forall₂_same]
    exact fun q _ => q.2.relinks p hp q.1

/-- The word in front of a directive is none, although it is followed by one. -/
theorem linkPaths_directives_demo :
    let p : Place := ⟨"acme", "demo", "main"⟩
    let diagram := "click click Api  \"src/main.rs\""
    p.IsUnquoted ∧ linkPaths p diagram =
        "click click Api \"https://github.com/acme/demo/blob/main/src/main.rs\"" ∧
      ∃ parts parts' last, CutsInto diagram.toList parts last ∧
        CutsInto (linkPaths p diagram).toList parts' last ∧
        List.Forall₂ (Relinks p) parts parts' := by
  intro p diagram
  have hp : p.IsUnquoted := by decide
  exact ⟨hp, by decide +kernel, linkPaths_directives p hp diagram⟩

end ArchDiagram.Diagram
