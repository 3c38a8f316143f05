import ArchDiagram.Diagram.Mapping
import ArchDiagram.Proofs.Text.Occurrence

/-!
# What is taken out of an answer as its mapping

An answer with both tags is cut at the first of each.  Neither tag has an angle bracket anywhere but
at its front, so no tag begins within another one, and what stands between the two cuts is the
opening tag and a text without the closing one.

* `Extracts`: the three ways in which a mapping is taken out.
* `extracts_mappingChars`: **one of them applies**.
* `mappingOf_extraction`: **what a mapping is, whatever the answer**.
-/

namespace ArchDiagram.Diagram

open Text

abbrev Has (tag : List Char) (s : String) : Prop :=
  tag <:+: s.toList

/-- The mapping `m` is taken out of the answer `cs`. -/
inductive Extracts (cs : List Char) : List Char → Prop
  | untagged : ¬ (openTag <:+: cs ∧ closeTag <:+: cs) → Extracts cs cs
  | tagged {front body : List Char} : IsFirst openTag front cs →
      IsFirst closeTag (front ++ (openTag ++ body)) cs → Extracts cs (openTag ++ body)
  | reversed {front before : List Char} : IsFirst openTag front cs →
      IsFirst closeTag before cs → before.length < front.length → Extracts cs []

/-! ## Tags -/

theorem bracket_not_mem_openTag : '<' ∉ openTag.tail := by
  decide

theorem bracket_not_mem_closeTag : '<' ∉ closeTag.tail := by
  decide

theorem openTag_eq : openTag = '<' :: openTag.tail := rfl

theorem closeTag_eq : closeTag = '<' :: closeTag.tail := rfl

/-- A closing tag does not begin within an opening one. -/
theorem exists_of_closeTag {s m t : List Char} (h : openTag ++ s = m ++ (closeTag ++ t)) :
    ∃ body, m = openTag ++ body ∧ s = body ++ (closeTag ++ t) := by
  rw [closeTag_eq, List.cons_append] at h ⊢
  rcases append_eq_append_cons h with hbody | ⟨a, hopen, htail⟩
  · exact hbody
  · cases m with
    | nil =>
      obtain ⟨-, ha⟩ := List.cons.inj hopen
      have hclash := congrArg List.head? htail
      rw [← ha] at hclash
      cases hclash
    | cons c m =>
      have hmem : '<' ∈ openTag.tail := by
        rw [hopen]
        exact List.mem_append_right m List.mem_cons_self
      exact absurd hmem bracket_not_mem_openTag

theorem not_infix_openTag_append {body : List Char} (h : ¬ closeTag <:+: body) :
    ¬ closeTag <:+: openTag ++ body := by
  rintro ⟨a, b, hab⟩
  rw [List.append_assoc] at hab
  obtain ⟨a', -, rfl⟩ := exists_of_closeTag hab.symm
  exact h ⟨a', b, List.append_assoc _ _ _⟩

/-! ## The cut -/

/-- **One of the three ways applies.** -/
theorem extracts_mappingChars (cs : List Char) : Extracts cs (mappingChars cs) := by
  rw [mappingChars]
  rcases hopen : breakAt? openTag cs with _ | ⟨front, s⟩
  · exact .untagged fun h => breakAt?_eq_none_iff.mp hopen h.1
  rcases hclose : breakAt? closeTag cs with _ | ⟨before, t⟩
  · exact .untagged fun h => breakAt?_eq_none_iff.mp hclose h.2
  obtain ⟨-, hfront⟩ := breakAt?_eq_some_iff.mp hopen
  obtain ⟨-, hbefore⟩ := breakAt?_eq_some_iff.mp hclose
  dsimp only
  rcases Nat.lt_or_ge before.length front.length with hlt | hge
  · rw [List.drop_eq_nil_of_le hlt.le]
    exact .reversed hfront hbefore hlt
  · obtain ⟨u, hu⟩ := hfront.occurs
    obtain ⟨v, hv⟩ := hbefore.occurs
    obtain ⟨m, rfl⟩ : front <+: before :=
      List.prefix_of_prefix_length_le ((List.prefix_append _ _).trans hfront.occurs)
        ((List.prefix_append _ _).trans hbefore.occurs) hge
    have hm : openTag ++ u = m ++ (closeTag ++ v) := by
      rw [← hv] at hu
      simpa using hu
    obtain ⟨body, rfl, -⟩ := exists_of_closeTag hm
    rw [List.drop_left]
    exact .tagged hfront hbefore

namespace Extracts

variable {cs m : List Char}

theorem isInfix (h : Extracts cs m) : m <:+: cs := by
  cases h with
  | untagged _ => exact List.infix_rfl
  | @tagged front body _ hclose =>
    have hprefix := (List.prefix_append (front ++ (openTag ++ body)) closeTag).trans hclose.occurs
    exact (List.suffix_append front _).isInfix.trans hprefix.isInfix
  | reversed _ _ _ => exact List.nil_infix

theorem closed (h : Extracts cs m) (hopen : openTag <:+: cs) (hclose : closeTag <:+: cs) :
    ¬ closeTag <:+: m := by
  cases h with
  | untagged hnone => exact absurd ⟨hopen, hclose⟩ hnone
  | @tagged front body _ hfirst =>
    rintro ⟨a, b, hab⟩
    have hoccurs : front ++ a ++ closeTag <+: cs := by
      refine List.IsPrefix.trans ⟨b ++ closeTag, ?_⟩ hfirst.occurs
      rw [← hab]
      simp
    have hle := hfirst.le _ hoccurs
    have hlength := congrArg List.length hab
    have hpos : 0 < closeTag.length := by decide
    simp only [List.length_append] at hle hlength
    omega
  | reversed _ _ _ => exact fun h => absurd (List.infix_nil.mp h) (by decide)

theorem mappingChars_eq (h : Extracts cs m) : mappingChars cs = m := by
  rw [mappingChars]
  cases h with
  | untagged hnone =>
    rw [not_and_or, ← breakAt?_eq_none_iff, ← breakAt?_eq_none_iff] at hnone
    rcases hnone with hnone | hnone
    · rw [hnone]
    · rw [hnone]
      split <;> simp_all
  | tagged hopen hclose =>
    obtain ⟨_, hopen⟩ := hopen.exists_breakAt?
    obtain ⟨_, hclose⟩ := hclose.exists_breakAt?
    rw [hopen, hclose]
    exact List.drop_left
  | reversed hopen hclose hlt =>
    obtain ⟨_, hopen⟩ := hopen.exists_breakAt?
    obtain ⟨_, hclose⟩ := hclose.exists_breakAt?
    rw [hopen, hclose]
    exact List.drop_eq_nil_of_le hlt.le

end Extracts

/-- Tags behind a text with neither of them are found where they stand. -/
theorem extracts_between {front body : List Char} (rest : List Char)
    (hopen : ¬ openTag <:+: front) (hclose : ¬ closeTag <:+: front)
    (hbody : ¬ closeTag <:+: body) :
    Extracts (front ++ (openTag ++ (body ++ (closeTag ++ rest)))) (openTag ++ body) := by
  have hopened : IsFirst openTag front (front ++ (openTag ++ (body ++ (closeTag ++ rest)))) := by
    refine ⟨⟨body ++ (closeTag ++ rest), by simp⟩, fun a ha => ?_⟩
    rw [openTag_eq, List.cons_append] at ha
    exact length_le_of_occurs bracket_not_mem_openTag hopen ha
  refine .tagged hopened ⟨⟨rest, by simp⟩, fun a ha => ?_⟩
  -- it begins neither in front of the opening tag nor between the two
  have hfree : ¬ closeTag <:+: front ++ (openTag ++ body) := by
    rintro ⟨b, c, hbc⟩
    have hle : front.length ≤ b.length := by
      have hoccurs : b ++ closeTag <+: front ++ '<' :: (openTag.tail ++ body) := ⟨c, hbc⟩
      exact length_le_of_occurs bracket_not_mem_closeTag hclose hoccurs
    rw [List.append_assoc] at hbc
    obtain ⟨b', rfl, hb'⟩ := exists_of_length_le hbc.symm hle
    exact not_infix_openTag_append hbody ⟨b', c, by rw [hb', List.append_assoc]⟩
  have hsplit : front ++ (openTag ++ (body ++ (closeTag ++ rest))) =
      front ++ (openTag ++ body) ++ '<' :: (closeTag.tail ++ rest) := by
    rw [List.append_assoc, List.append_assoc]
    rfl
  rw [hsplit] at ha
  exact length_le_of_occurs bracket_not_mem_closeTag hfree ha

/-! ## Answers -/

structure Extraction (answer mapping : String) : Prop where
  /-- It is cut out of the answer in one piece. -/
  part : ∃ front back, answer = front ++ mapping ++ back
  closed : Has openTag answer → Has closeTag answer → ¬ Has closeTag mapping
  /-- Nothing more is taken off a mapping. -/
  again : mappingOf mapping = mapping
  between : ∀ front body rest,
    answer.toList = front ++ (openTag ++ (body ++ (closeTag ++ rest))) →
    ¬ openTag <:+: front → ¬ closeTag <:+: front → ¬ closeTag <:+: body →
    mapping.toList = openTag ++ body
  untagged : ¬ (Has openTag answer ∧ Has closeTag answer) → mapping = answer
  reversed : ∀ front before, IsFirst openTag front answer.toList →
    IsFirst closeTag before answer.toList → before.length < front.length → mapping = ""

theorem toList_mappingOf (answer : String) :
    (mappingOf answer).toList = mappingChars answer.toList := by
  simp [mappingOf]

/-- **What is taken out of an answer as its mapping**, whatever the answer is. -/
theorem mappingOf_extraction (answer : String) : Extraction answer (mappingOf answer) := by
  have hextracts := extracts_mappingChars answer.toList
  rw [← toList_mappingOf] at hextracts
  have heq : ∀ {m : List Char}, Extracts answer.toList m → (mappingOf answer).toList = m := by
    intro m hm
    rw [toList_mappingOf, hm.mappingChars_eq]
  constructor
  case part =>
    obtain ⟨front, back, h⟩ := hextracts.isInfix
    refine ⟨String.ofList front, String.ofList back, String.toList_inj.mp ?_⟩
    simpa using h.symm
  case closed => exact hextracts.closed
  case again =>
    have huntagged : ¬ (Has openTag (mappingOf answer) ∧ Has closeTag (mappingOf answer)) := by
      intro h
      by_cases hboth : Has openTag answer ∧ Has closeTag answer
      · exact hextracts.closed hboth.1 hboth.2 h.2
      · rw [Has, Has, heq (.untagged hboth)] at h
        exact hboth h
    rw [← String.toList_inj, toList_mappingOf (mappingOf answer)]
    exact (Extracts.untagged huntagged).mappingChars_eq
  case between =>
    intro front body rest h hopen hclose hbody
    refine heq ?_
    rw [h]
    exact extracts_between rest hopen hclose hbody
  case untagged =>
    intro h
    exact String.toList_inj.mp (heq (.untagged h))
  case reversed =>
    intro front before hopen hclose hlt
    rw [← String.toList_inj, heq (.reversed hopen hclose hlt)]
    rfl

end ArchDiagram.Diagram
