import ArchDiagram.Proofs.Diagram.Link
import Mathlib.Data.List.Basic

/-!
# Directives across lines

Both the gap and the path of a directive may hold a line feed, so a directive may begin in one line
and end in the next; the quotes and the word may belong to labels there.  Two lines that are broken
in the middle of no directive are linked one by one.  If a directive spans them, they are not: in
the linked text the address stands where the first line alone would go on, and the address has more
slashes than the path that it was made of.

* `Spans`: a directive that is found in two lines begins in the one and ends in the other.
* `linkPaths_lines`: **lines may be linked one by one if and only if no directive spans them**.
* `linkPaths_swallows_line`: labels of two lines that are taken for a directive.
-/

namespace ArchDiagram.Diagram

open Text

/-- One of the directives of two lines begins in the first and ends in the second. -/
inductive Spans : List Char → List Char → Prop
  /-- The leftmost one does. -/
  | here {before d₁ d₂ rest : List Char} {d : Directive} : Quiet before (d.text ++ rest) →
      d.text = d₁ ++ '\n' :: d₂ → Spans (before ++ d₁) (d₂ ++ rest)
  /-- The leftmost one ends in the first line, and one behind it does. -/
  | later {before a b : List Char} {d : Directive} : Quiet before (d.text ++ (a ++ '\n' :: b)) →
      Spans a b → Spans (before ++ (d.text ++ a)) b

/-! ## Lines that no directive spans -/

theorem quiet_append_iff {x y after : List Char} :
    Quiet (x ++ y) after ↔ Quiet x (y ++ after) ∧ Quiet y after := by
  induction x with
  | nil => simp [quiet_nil]
  | cons c x ih => rw [List.cons_append, quiet_cons, ih, quiet_cons, List.append_assoc, and_assoc]

theorem Quiet.mono {before after after' : List Char} (h : Quiet before after')
    (hstart : after <+: after') : Quiet before after := by
  rintro b hb hsuffix ⟨d, hd⟩
  exact h b hb hsuffix ⟨d, hd.trans ((List.prefix_append_right_inj b).mpr hstart)⟩

theorem relinked_lines (p : Place) {cs last : List Char} {parts : Parts} (h : IsCut cs parts last)
    {a b : List Char} (hcs : cs = a ++ '\n' :: b) (hspans : ¬ Spans a b) :
    relinked p cs = relinked p a ++ '\n' :: relinked p b := by
  induction h generalizing a with
  | last hquiet =>
    rw [relinked_of_quiet p hquiet]
    rw [hcs, quiet_append_iff, quiet_cons] at hquiet
    rw [relinked_of_quiet p (hquiet.1.mono List.nil_prefix), relinked_of_quiet p hquiet.2.2,
      hcs]
  | @next before rest last d parts hquiet _ ih =>
    rw [relinked_append p hquiet]
    -- the directive begins in front of the line feed, and ends there too, or stands behind it
    rcases append_eq_append_cons hcs with ⟨a', rfl, hfront⟩ | ⟨t, rfl, rfl⟩
    · rcases append_eq_append_cons hfront with ⟨a'', rfl, rfl⟩ | ⟨d₂, htext, rfl⟩
      · have hlater : ¬ Spans a'' b := fun h => hspans (.later hquiet h)
        rw [ih rfl hlater, relinked_append p (hquiet.replace d a'')]
        simp
      · exact absurd (.here hquiet htext) hspans
    · rw [quiet_append_iff, quiet_cons] at hquiet
      rw [relinked_of_quiet p (hquiet.1.mono List.nil_prefix), relinked_append p hquiet.2.2]
      simp

/-! ## Lines that one does -/

/-- Up to the first quote a linked text has the slashes of the text itself: only blanks in front of
a quote may change. -/
theorem count_relinked (p : Place) {q : List Char} (hq : '"' ∉ q) (tail : List Char) :
    ((relinked p (q ++ '"' :: tail)).takeWhile isInner).count '/' = q.count '/' := by
  have hinner := isInner_of_unquoted hq
  rcases quiet_or_leftmost (q ++ '"' :: tail) with hquiet | ⟨before, d, rest, htext, hquiet⟩
  · rw [relinked_of_quiet p hquiet, takeWhile_append_of_stops hinner (stops_inner tail)]
  · rw [htext, relinked_append p hquiet]
    rcases append_eq_append_cons htext.symm with ⟨t, rfl, hquote⟩ | ⟨t, rfl, -⟩
    · -- the quote is the one that opens the path
      have hfront : d.text ++ rest =
          (clickWord ++ (d.node ++ d.gap)) ++ '"' :: (d.path ++ '"' :: rest) := by
        rw [d.text_eq]
        simp
      have ht : t = clickWord ++ (d.node ++ d.gap) := by
        rw [hfront] at hquote
        have ht : '"' ∉ t := fun hm => hq (List.mem_append_right _ hm)
        exact (append_inj_of_class hquote (isInner_of_unquoted d.unquoted) (stops_inner _)
          (isInner_of_unquoted ht) (stops_inner _)).1.symm
      subst ht
      have hlinked : before ++ (d.click.linked p ++ relinked p rest) =
          before ++ (clickWord ++ (d.node ++ [' '])) ++
            '"' :: (p.address d.click.cleanPath ++ '"' :: relinked p rest) := by
        simp [Click.linked, Directive.click]
      have hunquoted : '"' ∉ before ++ (clickWord ++ (d.node ++ [' '])) := by
        simp only [List.mem_append, not_or] at hq ⊢
        exact ⟨hq.1, hq.2.1, hq.2.2.1, by decide⟩
      have hgap : d.gap.count '/' = 0 :=
        List.count_eq_zero.mpr fun hm => absurd (d.gap_blank _ hm) (by decide)
      rw [hlinked, takeWhile_append_of_stops (isInner_of_unquoted hunquoted) (stops_inner _)]
      simp [hgap]
    · rw [List.append_assoc, List.cons_append, takeWhile_append_of_stops hinner (stops_inner _)]

/-- An address has more slashes than the path. -/
theorem count_address (p : Place) (k : Click) :
    k.path.count '/' < (p.address k.cleanPath).count '/' := by
  have hclean : k.cleanPath.count '/' = k.path.count '/' := by
    rw [Click.cleanPath, count_trimBy (by decide), count_trimBy (by decide)]
  have hhost : "https://github.com/".toList.count '/' = 3 := by
    decide
  simp only [Place.address, String.toList_append, List.count_append, hclean, hhost]
  omega

/-- A line feed in a directive stands in its gap or in its path. -/
theorem Directive.lineFeed (d : Directive) {d₁ d₂ : List Char} (h : d.text = d₁ ++ '\n' :: d₂) :
    (∃ g g', d.gap = g ++ '\n' :: g' ∧ d₁ = clickWord ++ (d.node ++ g)) ∨
      ∃ q q', d.path = q ++ '\n' :: q' ∧ d₂ = q' ++ ['"'] ∧
        d₁ = clickWord ++ (d.node ++ (d.gap ++ '"' :: q)) := by
  have hnode : '\n' ∉ d.node := fun hm => absurd (d.node_plain _ hm).1 (by decide)
  rw [← List.append_nil d.text, d.text_eq] at h
  obtain ⟨e, rfl, hnext⟩ := exists_of_not_mem (by decide) h
  obtain ⟨g, rfl, hrest⟩ := exists_of_not_mem hnode hnext
  rcases append_eq_append_cons hrest with ⟨t, rfl, hquote⟩ | ⟨g', hgap, -⟩
  · obtain ⟨q, rfl, hpath⟩ := exists_of_not_mem (a := ['"']) (by decide) hquote
    rcases append_eq_append_cons hpath with ⟨t, -, hlast⟩ | ⟨q', hinner, rfl⟩
    · have hm : '\n' ∈ ['"'] := by
        rw [hlast]
        exact List.mem_append_right t List.mem_cons_self
      exact absurd hm (by decide)
    · exact Or.inr ⟨q, q', hinner, rfl, rfl⟩
  · exact Or.inl ⟨g, g', hgap, rfl⟩

/-- A directive that is broken does not go on as it is linked. -/
theorem Directive.linked_ne (d : Directive) {d₁ d₂ : List Char} (h : d.text = d₁ ++ '\n' :: d₂)
    {p : Place} (hp : p.IsUnquoted) (rest more : List Char) :
    d.click.linked p ++ more ≠ d₁ ++ '\n' :: relinked p (d₂ ++ rest) := by
  intro heq
  have hlinked : d.click.linked p ++ more =
      clickWord ++ (d.node ++ ([' '] ++ '"' :: (p.address d.click.cleanPath ++ '"' :: more))) := by
    simp [Click.linked, Directive.click]
  rw [hlinked] at heq
  rcases d.lineFeed h with ⟨g, g', hgap, rfl⟩ | ⟨q, q', hpath, rfl, rfl⟩
  · -- one blank is left of the gap, so the line feed would be this blank or the quote behind it
    simp only [List.append_assoc, List.append_cancel_left_eq] at heq
    cases g with
    | nil => exact absurd (List.cons.inj heq).1 (by decide)
    | cons c g =>
      have hquote := (List.cons.inj heq).2
      cases g with
      | nil => exact absurd (List.cons.inj hquote).1 (by decide)
      | cons c' g =>
        have hblank := d.gap_blank c' (by rw [hgap]; simp)
        rw [← (List.cons.inj hquote).1] at hblank
        exact absurd hblank (by decide)
  · simp only [List.append_assoc, List.cons_append, List.append_cancel_left_eq] at heq
    obtain ⟨-, hquote⟩ := append_inj_of_class (a := [' ']) heq isBlank_space (stops_quote _)
      d.gap_blank (stops_quote _)
    have hunquoted := d.path_unquoted
    rw [hpath, List.mem_append, List.mem_cons, not_or, not_or] at hunquoted
    have haddress : '"' ∉ p.address d.click.cleanPath := (d.linked p hp).path_unquoted
    -- up to the next quote stands the address here, and the path with its line feed there
    have hcount := congrArg (fun cs => (cs.takeWhile isInner).count '/') (List.cons.inj hquote).2
    simp only [takeWhile_append_of_stops (isInner_of_unquoted haddress) (stops_inner more),
      List.takeWhile_append_of_pos (isInner_of_unquoted hunquoted.1), List.count_append,
      List.takeWhile_cons_of_pos (show isInner '\n' = true from rfl), List.nil_append] at hcount
    rw [List.count_cons_of_ne (by decide), count_relinked p hunquoted.2.2] at hcount
    have hslashes : d.path.count '/' = q.count '/' + q'.count '/' := by
      rw [hpath, List.count_append, List.count_cons_of_ne (by decide)]
    have hmore : d.path.count '/' < (p.address d.click.cleanPath).count '/' :=
      count_address p d.click
    omega

theorem Directive.count_quote (d : Directive) : d.text.count '"' = 2 := by
  have hfront := List.count_eq_zero.mpr d.unquoted
  have hpath := List.count_eq_zero.mpr d.path_unquoted
  rw [List.count_append, List.count_append] at hfront
  have hquote : ['"'].count '"' = 1 := rfl
  simp only [text, Opening.text, List.count_append, hpath, hquote]
  omega

/-- The front of a directive is passed over, and so is what stands in front of it: there are not
quotes enough. -/
theorem Quiet.broken {before d₁ d₂ rest : List Char} {d : Directive}
    (h : Quiet before (d.text ++ rest)) (hd : d.text = d₁ ++ '\n' :: d₂) :
    Quiet (before ++ d₁) [] := by
  have hstart : d₁ ++ [] <+: d.text ++ rest := by
    rw [hd, List.append_nil, List.append_assoc]
    exact List.prefix_append d₁ _
  rw [quiet_append_iff]
  refine ⟨h.mono hstart, ?_⟩
  rintro b - hsuffix ⟨e, he⟩
  rw [List.append_nil] at he
  have hlast : '"' ∈ '\n' :: d₂ := by
    have hlast := congrArg List.getLast? hd
    rw [Directive.text, ← List.append_assoc, List.getLast?_concat,
      List.getLast?_append_cons] at hlast
    exact List.mem_of_getLast? hlast.symm
  have htwo : e.text.count '"' ≤ d₁.count '"' :=
    (he.sublist.count_le _).trans (hsuffix.sublist.count_le _)
  have hcount := d.count_quote
  rw [hd, List.count_append] at hcount
  have hone := List.count_pos_iff.mpr hlast
  rw [e.count_quote] at htwo
  omega

theorem relinked_ne_of_spans {p : Place} (hp : p.IsUnquoted) {a b : List Char} (h : Spans a b) :
    relinked p (a ++ '\n' :: b) ≠ relinked p a ++ '\n' :: relinked p b := by
  induction h with
  | @here before d₁ d₂ rest d hquiet hd =>
    intro heq
    have htext : before ++ d₁ ++ '\n' :: (d₂ ++ rest) = before ++ (d.text ++ rest) := by
      rw [hd]
      simp
    rw [htext, relinked_append p hquiet, relinked_of_quiet p (hquiet.broken hd),
      List.append_assoc] at heq
    exact d.linked_ne hd hp rest _ (List.append_cancel_left heq)
  | @later before a b d hquiet _ ih =>
    intro heq
    have htext : before ++ (d.text ++ a) ++ '\n' :: b = before ++ (d.text ++ (a ++ '\n' :: b)) := by
      simp
    rw [htext, relinked_append p hquiet, relinked_append p (hquiet.replace d a)] at heq
    simp only [List.append_assoc, List.append_cancel_left_eq] at heq
    exact ih heq

/-- **Two lines may be linked one by one if and only if no directive spans them.** -/
theorem linkPaths_lines (a b : String) :
    (∀ p, linkPaths p (a ++ "\n" ++ b) = linkPaths p a ++ "\n" ++ linkPaths p b) ↔
      ¬ Spans a.toList b.toList := by
  have hlines : ∀ p, linkPaths p (a ++ "\n" ++ b) = linkPaths p a ++ "\n" ++ linkPaths p b ↔
      relinked p (a.toList ++ '\n' :: b.toList) =
        relinked p a.toList ++ '\n' :: relinked p b.toList := by
    intro p
    rw [← String.toList_inj]
    simp [linkPaths, relinked]
  simp only [hlines]
  constructor
  · intro h hspans
    have hplace : Place.IsUnquoted ⟨"", "", ""⟩ := by
      decide
    exact relinked_ne_of_spans hplace hspans (h _)
  · intro hspans p
    obtain ⟨parts, last, hcut⟩ := exists_cut (a.toList ++ '\n' :: b.toList)
    exact relinked_lines p hcut rfl hspans

/-- The quote that closes a label and the one that opens the next are taken for those of a path. -/
theorem linkPaths_swallows_line :
    let a := "flowchart TD\nA[\"click here \"]"
    let b := "B[\"API\"]"
    let p : Place := ⟨"acme", "demo", "main"⟩
    linkPaths p a = a ∧ linkPaths p b = b ∧
      linkPaths p (a ++ "\n" ++ b) =
        "flowchart TD\nA[\"click here \"https://github.com/acme/demo/tree/main/]\nB[\"API\"]" ∧
      linkPaths p (a ++ "\n" ++ b) ≠ linkPaths p a ++ "\n" ++ linkPaths p b := by
  decide +kernel

end ArchDiagram.Diagram
