import ArchDiagram.Proofs.Pricing.Family
import ArchDiagram.Proofs.Text.Trim

/-!
# Dated snapshots of a model

A snapshot of a model is named like the model with a date behind it.  No character of a date has a
case or is blank, so the name in lower case and trimmed is that of the model, then the blanks that
stood between the model and the date, then the date.  The date is dropped, and no prefix of the
table reaches into the blanks.

* `familyOf_append_date`: **a snapshot belongs to the family of its model**.
-/

namespace ArchDiagram.Pricing

open Text

/-- What begins a text does not reach into characters of a class that it does not have. -/
theorem prefix_append_iff_of_class {p : Char → Bool} {front a gap : List Char}
    (hfront : ∀ c ∈ front, p c = false) (hgap : ∀ c ∈ gap, p c = true) :
    front <+: a ++ gap ↔ front <+: a := by
  constructor
  · rintro ⟨rest, h⟩
    rcases List.append_eq_append_iff.mp h with ⟨t, rfl, -⟩ | ⟨t, rfl, hgap'⟩
    · exact List.prefix_append front t
    · cases t with
      | nil => simp
      | cons c t =>
        have hc := hfront c (List.mem_append_right a List.mem_cons_self)
        rw [hgap c (by rw [hgap']; exact List.mem_cons_self)] at hc
        cases hc
  · exact fun h => h.trans (List.prefix_append a gap)

theorem isTrimmed_of_isDate {date : List Char} (h : isDate date = true) :
    IsTrimmed isBlank date := by
  have hblank := forall_of_isDate (P := fun c => isBlank c = false) rfl isBlank_of_isDecimalDigit h
  exact ⟨stops_of_forall hblank, stops_of_forall fun c hc => hblank c (List.mem_reverse.mp hc)⟩

/-- The name of a snapshot in lower case: blanks may stand between the model and the date. -/
theorem normalName_append_date (model : String) {date : String} (h : isDate date.toList = true) :
    ∃ gap, (∀ c ∈ gap, isBlank c = true) ∧
      normalName (model ++ date) = (normalName model ++ gap) ++ date.toList := by
  have hne : date.toList ≠ [] := by
    intro hnil
    rw [hnil] at h
    cases h
  obtain ⟨gap, hgap, htrim⟩ := trimBy_append model.toList hne (isTrimmed_of_isDate h)
  refine ⟨gap, hgap, ?_⟩
  rw [normalName, String.toList_append, htrim, lowercase_append, lowercase_append,
    lowercase_of_uncased fun c hc => isUncased_of_isBlank (hgap c hc),
    lowercase_of_uncased (isUncased_of_isDate h), normalName, List.append_assoc]

/-- **A snapshot belongs to the family of its model.** -/
theorem familyOf_append_date (model date : String)
    (hmodel : ∀ d, d <:+ trimBy isBlank model.toList → isDate d = false)
    (hdate : isDate date.toList = true) : familyOf (model ++ date) = familyOf model := by
  obtain ⟨gap, hgap, hname⟩ := normalName_append_date model hdate
  have hplain : dropDateChars (normalName model) = normalName model := by
    refine dropDateChars_of_plain ?_
    rintro d ⟨front, hd⟩
    by_contra hd'
    rw [Bool.not_eq_false] at hd'
    obtain ⟨front', hmodel', -⟩ := exists_of_lowercase_append hd.symm (isUncased_of_isDate hd')
    rw [hmodel d ⟨front', hmodel'.symm⟩] at hd'
    cases hd'
  have hsnapshot := isFamily_familyOf (model ++ date)
  have hfamily := isFamily_familyOf model
  rw [hname, dropDateChars_append _ hdate] at hsnapshot
  rw [hplain] at hfamily
  have hblank : ∀ e ∈ familyPrefixes, e.1.toList.any isBlank = false := by
    decide +kernel
  refine (hsnapshot.congr (fun _ => Iff.rfl) ?_).unique nodup_familyPrefixes hfamily
  intro e he
  refine prefix_append_iff_of_class ?_ hgap
  intro c hc
  exact Bool.eq_false_iff.mpr (List.any_eq_false.mp (hblank e he) c hc)

theorem familyOf_append_date_digits :
    (∀ d, d <:+ trimBy isBlank " GPT-5-Mini ".toList → isDate d = false) ∧
      isDate "-٢٠٢٥-٠٨-٠٧".toList = true ∧
      familyOf (" GPT-5-Mini " ++ "-٢٠٢٥-٠٨-٠٧") = familyOf " GPT-5-Mini " := by
  have hmodel : ∀ d, d <:+ trimBy isBlank " GPT-5-Mini ".toList → isDate d = false := by
    intro d hd
    by_contra hdate
    have hshort : (trimBy isBlank " GPT-5-Mini ".toList).length < dateLength := by
      decide +kernel
    have hlong := hd.length_le
    rw [Bool.not_eq_false] at hdate
    rw [length_of_isDate hdate] at hlong
    omega
  have hdate : isDate "-٢٠٢٥-٠٨-٠٧".toList = true := by
    decide +kernel
  exact ⟨hmodel, hdate, familyOf_append_date _ _ hmodel hdate⟩

/-- What ends like a date already is dropped without a date behind it, and is kept with one. -/
example : familyOf "gpt-5123-01-01" = "gpt-5.2" ∧
    familyOf "gpt-5123-01-01-2025-08-07" = "gpt-5" := by
  decide +kernel

end ArchDiagram.Pricing
