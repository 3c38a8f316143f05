import ArchDiagram.Proofs.Diagram.Link

/-!
# Paths of directives

The path of a directive loses the blanks around it first and the quotation marks around that after
it.  Nothing is looked at twice, so blanks directly within the quotation marks stay, and quotation
marks within these do too.  The path that is left is free of both at its ends if and only if the
path of the directive consists of blanks, quotation marks, a core that is free of both at its ends,
quotation marks and blanks, in this order (`IsWrapped`).

* `cleanPath_of_wraps`, `isTrimmed_cleanPath_iff`: what is left of a path.
* `linkPaths_trims`: **the link of a directive is the one of its trimmed path if and only if the
  path is wrapped that way**.
* `linkPaths_keeps_blanks`: a directory in quotation marks with blanks within that is taken for a
  file.
-/

namespace ArchDiagram.Diagram

open Text

/-- A character that may not stand at the ends of a path. -/
def isFringe (c : Char) : Bool :=
  isBlank c || isQuote c

/-- A path consists of blanks, quotation marks, a core, quotation marks and blanks; the core neither
begins nor ends with a blank or a quotation mark. -/
def Wraps (path core : List Char) : Prop :=
  ∃ blanks quotes quotes' blanks', path = blanks ++ ((quotes ++ (core ++ quotes')) ++ blanks') ∧
    (∀ c ∈ blanks, isBlank c = true) ∧ (∀ c ∈ blanks', isBlank c = true) ∧
    (∀ c ∈ quotes, isQuote c = true) ∧ (∀ c ∈ quotes', isQuote c = true) ∧ IsTrimmed isFringe core

/-- A path with no blank directly within the quotation marks around it. -/
def IsWrapped (path : List Char) : Prop :=
  ∃ core, Wraps path core

/-- A directive is linked to a path that neither begins nor ends with a blank or a quotation
mark. -/
def LinksTrimmed (p : Place) (d : Directive) : Prop :=
  ∃ path, IsTrimmed isFringe path ∧ d.click.linked p = p.link d.node path

/-! ## What is left of a path -/

theorem isBlank_of_isQuote {c : Char} (h : isQuote c = true) : isBlank c = false := by
  rw [isQuote, Bool.or_eq_true, beq_iff_eq, beq_iff_eq] at h
  rcases h with rfl | rfl <;> rfl

theorem isFringe_eq_false {c : Char} :
    isFringe c = false ↔ isBlank c = false ∧ isQuote c = false := by
  rw [isFringe, Bool.or_eq_false_iff]

theorem stops_isFringe {cs : List Char} :
    Stops isFringe cs ↔ Stops isBlank cs ∧ Stops isQuote cs := by
  cases cs with
  | nil => simp [stops_nil]
  | cons c cs => simp only [stops_cons, isFringe_eq_false]

theorem stops_isBlank_quotes {quotes core : List Char} (hquotes : ∀ c ∈ quotes, isQuote c = true)
    (hcore : Stops isBlank core) : Stops isBlank (quotes ++ core) :=
  (stops_of_forall fun c hc => isBlank_of_isQuote (hquotes c hc)).append hcore

/-- **A path is cleaned to its core.** -/
theorem cleanPath_of_wraps {k : Click} {core : List Char} (h : Wraps k.path core) :
    k.cleanPath = core := by
  obtain ⟨blanks, quotes, quotes', blanks', hpath, hblanks, hblanks', hquotes, hquotes', hcore⟩ := h
  obtain ⟨hfront, hback⟩ := hcore
  rw [stops_isFringe] at hfront hback
  have hrev : ∀ c ∈ quotes.reverse, isQuote c = true :=
    fun c hc => hquotes c (List.mem_reverse.mp hc)
  have hrev' : ∀ c ∈ quotes'.reverse, isQuote c = true :=
    fun c hc => hquotes' c (List.mem_reverse.mp hc)
  have hmiddle : IsTrimmed isBlank (quotes ++ (core ++ quotes')) := by
    constructor
    · refine stops_isBlank_quotes hquotes (hfront.1.append ?_)
      exact stops_of_forall fun c hc => isBlank_of_isQuote (hquotes' c hc)
    · rw [List.reverse_append, List.reverse_append, List.append_assoc]
      refine stops_isBlank_quotes hrev' (hback.1.append ?_)
      exact stops_of_forall fun c hc => isBlank_of_isQuote (hrev c hc)
  rw [Click.cleanPath, hpath, trimBy_of_core hblanks hblanks' hmiddle]
  exact trimBy_of_core hquotes hquotes' ⟨hfront.2, hback.2⟩

/-- **A path is left without blanks and quotation marks at its ends if and only if it is wrapped in
them the right way.** -/
theorem isTrimmed_cleanPath_iff (k : Click) :
    IsTrimmed isFringe k.cleanPath ↔ IsWrapped k.path := by
  constructor
  · intro h
    obtain ⟨blanks, blanks', hpath, hblanks, hblanks', -⟩ := exists_trimBy isBlank k.path
    obtain ⟨quotes, quotes', hmiddle, hquotes, hquotes', -⟩ :=
      exists_trimBy isQuote (trimBy isBlank k.path)
    rw [hmiddle] at hpath
    exact ⟨k.cleanPath, blanks, quotes, quotes', blanks', hpath, hblanks, hblanks', hquotes,
      hquotes', h⟩
  · rintro ⟨core, h⟩
    rw [cleanPath_of_wraps h]
    obtain ⟨_, _, _, _, -, -, -, -, -, hcore⟩ := h
    exact hcore

/-- The core of a path is what trimming blanks and quotation marks alike would leave. -/
theorem trimBy_of_wraps {path core : List Char} (h : Wraps path core) :
    trimBy isFringe path = core := by
  obtain ⟨blanks, quotes, quotes', blanks', rfl, hblanks, hblanks', hquotes, hquotes', hcore⟩ := h
  have hfront : ∀ c ∈ blanks ++ quotes, isFringe c = true := by
    intro c hc
    rw [isFringe, Bool.or_eq_true]
    exact (List.mem_append.mp hc).imp (hblanks c) (hquotes c)
  have hback : ∀ c ∈ quotes' ++ blanks', isFringe c = true := by
    intro c hc
    rw [isFringe, Bool.or_eq_true]
    exact ((List.mem_append.mp hc).imp (hquotes' c) (hblanks' c)).symm
  have htrim := trimBy_of_core hfront hback hcore
  simpa only [List.append_assoc] using htrim

/-! ## Links -/

/-- The path of a link can be told from its text: files and directories are shown under addresses
of the same length. -/
theorem link_injective (p : Place) (node : List Char) : Function.Injective (p.link node) := by
  intro x y h
  have hlength : ∀ c : Prop, [Decidable c] → (if c then "blob" else "tree").toList.length = 4 := by
    intro c _
    split <;> rfl
  unfold Place.link at h
  simp only [String.toList_append, List.append_assoc, List.append_cancel_left_eq] at h
  obtain ⟨-, h⟩ := List.append_inj h (by rw [hlength, hlength])
  simpa using h

/-- **A directive is linked to a trimmed path if and only if its path is wrapped the right way.** -/
theorem linksTrimmed_iff (p : Place) (d : Directive) : LinksTrimmed p d ↔ IsWrapped d.path := by
  have hlinked : d.click.linked p = p.link d.node d.click.cleanPath := d.click.linked_eq_link p
  have hwrapped : IsTrimmed isFringe d.click.cleanPath ↔ IsWrapped d.path :=
    isTrimmed_cleanPath_iff d.click
  rw [← hwrapped]
  constructor
  · rintro ⟨path, hpath, hlink⟩
    rw [hlinked] at hlink
    rw [link_injective p d.node hlink]
    exact hpath
  · intro h
    exact ⟨d.click.cleanPath, h, hlinked⟩

/-- **Which links show trimmed paths**: the directives of a diagram are replaced one by one, and
such a directive is linked to a path without blanks and quotation marks at its ends if and only if
its path is wrapped in them the right way.  The path of the link is then what trimming both alike
leaves of the path of the directive. -/
theorem linkPaths_trims (p : Place) (diagram : String) : ∃ parts last,
    CutsInto diagram.toList parts last ∧
      (linkPaths p diagram).toList =
        parts.flatMap (fun q => q.1 ++ q.2.click.linked p) ++ last ∧
      ∀ q ∈ parts, (LinksTrimmed p q.2 ↔ IsWrapped q.2.path) ∧
        (IsWrapped q.2.path →
          q.2.click.linked p = p.link q.2.node (trimBy isFringe q.2.path)) := by
  obtain ⟨parts, last, hcut⟩ := exists_cut diagram.toList
  refine ⟨parts, last, hcut.cutsInto, ?_, ?_⟩
  · rw [toList_linkPaths, hcut.relinked_text p]
  · intro q _
    refine ⟨linksTrimmed_iff p q.2, ?_⟩
    rintro ⟨core, h⟩
    have hclean : q.2.click.cleanPath = core := cleanPath_of_wraps h
    rw [Click.linked_eq_link, hclean, trimBy_of_wraps h]
    rfl

/-- The blanks within the quotation marks stay, and with a blank behind its slash the directory is
taken for a file. -/
theorem linkPaths_keeps_blanks :
    let p : Place := ⟨"acme", "demo", "main"⟩
    let k : Click := ⟨"Api".toList, "' src.v2/ '".toList⟩
    linkPaths p "click Api \"' src.v2/ '\"" =
        "click Api \"https://github.com/acme/demo/blob/main/ src.v2/ \"" ∧
      k.cleanPath = " src.v2/ ".toList ∧ ¬ IsTrimmed isFringe k.cleanPath ∧
      isFile k.cleanPath = true ∧ isFile (trimBy isFringe k.path) = false := by
  decide +kernel

end ArchDiagram.Diagram
