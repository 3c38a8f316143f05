import ArchDiagram.Pricing.Family
import ArchDiagram.Proofs.Text.Lowercase
import ArchDiagram.Proofs.Text.Scan
import Mathlib.Data.List.Nodup

/-!
# The family of a model

A model is looked up in the table of rates twice, and in the table of prefixes if that fails.  All
three come down to one rule: the family of a name is that of the longest prefix which the table of
prefixes has of it (`IsFamily`).  The rule speaks of the entries of the table only and not of their
order, and a table in which no prefix stands twice gives one family to each name.

The names that the table of rates knows hold no date and get themselves from the rule, so neither of
the two lookups finds another family than the rule does.

* `undated_iff`: a name without the date at its end.
* `isFamily_familyByPrefix`, `IsFamily.unique`: **the rule gives one family, and the walk through
  the table finds it**.
* `isFamily_familyBy`: **the lookups in the table of rates agree with the rule**.
* `familyOf_rule`: the family of a model by its name in lower case.
-/

namespace ArchDiagram.Pricing

open Text

/-! ## Dates -/

/-- A name without the date that may stand at its end. -/
inductive Undated : List Char → List Char → Prop
  | dated {front date : List Char} : isDate date = true → Undated (front ++ date) front
  | plain {name : List Char} : (∀ date, date <:+ name → isDate date = false) → Undated name name

theorem length_of_isDate {date : List Char} (h : isDate date = true) :
    date.length = dateLength := by
  unfold isDate at h
  split at h
  · rfl
  · cases h

theorem forall_of_isDate {P : Char → Prop} (hyphen : P '-')
    (digit : ∀ {c}, isDecimalDigit c = true → P c) {date : List Char} (h : isDate date = true) :
    ∀ c ∈ date, P c := by
  unfold isDate at h
  split at h
  · rename_i h₁ a b c d h₂ e f h₃ g i
    simp only [Bool.and_eq_true, beq_iff_eq] at h
    obtain ⟨⟨⟨rfl, rfl⟩, rfl⟩, hall⟩ := h
    have hdigits : ∀ x ∈ [a, b, c, d, e, f, g, i], P x := fun x hx =>
      digit (List.all_eq_true.mp hall x hx)
    simp only [List.forall_mem_cons] at hdigits ⊢
    simp [hdigits, hyphen]
  · cases h

theorem isUncased_of_isDate {date : List Char} (h : isDate date = true) :
    ∀ c ∈ date, IsUncased c :=
  forall_of_isDate isUncased_hyphen isUncased_of_isDecimalDigit h

theorem dropDateChars_append (front : List Char) {date : List Char} (h : isDate date = true) :
    dropDateChars (front ++ date) = front := by
  have hfront : (front ++ date).length - dateLength = front.length := by
    rw [List.length_append, length_of_isDate h, Nat.add_sub_cancel]
  rw [dropDateChars, hfront, List.drop_left, if_pos h, List.take_left]

theorem dropDateChars_of_plain {name : List Char}
    (h : ∀ date, date <:+ name → isDate date = false) : dropDateChars name = name := by
  rw [dropDateChars, h _ (List.drop_suffix _ name)]
  rfl

/-- **A name loses one date, if it ends with one.** -/
theorem undated_iff {name front : List Char} :
    Undated name front ↔ front = dropDateChars name := by
  constructor
  · rintro (h | h)
    · exact (dropDateChars_append front h).symm
    · exact (dropDateChars_of_plain h).symm
  · rintro rfl
    by_cases h : ∃ date, date <:+ name ∧ isDate date = true
    · obtain ⟨date, ⟨front, rfl⟩, hdate⟩ := h
      rw [dropDateChars_append front hdate]
      exact .dated hdate
    · have hplain : ∀ date, date <:+ name → isDate date = false := fun date hsuffix =>
        Bool.eq_false_iff.mpr fun hdate => h ⟨date, hsuffix, hdate⟩
      rw [dropDateChars_of_plain hplain]
      exact .plain hplain

/-- A date has no sigma, so the forms of the sigmas do not matter. -/
theorem isDate_of_resembles {a b : List Char} (h : List.Forall₂ Resembles a b) :
    isDate a = isDate b := by
  have hsmall : ¬ IsUncased 'σ' := by
    decide
  have hfinal : ¬ IsUncased 'ς' := by
    decide
  rw [Bool.eq_iff_iff]
  constructor
  · intro ha
    rw [← eq_of_resembles h (Or.inl fun hm => hsmall (isUncased_of_isDate ha _ hm))]
    exact ha
  · intro hb
    rw [eq_of_resembles h (Or.inr fun hm => hfinal (isUncased_of_isDate hb _ hm))]
    exact hb

theorem dropDateChars_of_resembles {a b : List Char} (h : List.Forall₂ Resembles a b) :
    List.Forall₂ Resembles (dropDateChars a) (dropDateChars b) := by
  have hdate := isDate_of_resembles (List.forall₂_drop (a.length - dateLength) h)
  rw [dropDateChars, dropDateChars, ← h.length_eq, ← hdate]
  split
  · exact List.forall₂_take _ h
  · exact h

/-! ## The rule -/

abbrev Table := List (String × String)

/-- The family of the longest prefix that a table has of a name, and the default family if it has
none. -/
inductive IsFamily (table : Table) (name : List Char) : String → Prop
  | longest {e : String × String} (mem : e ∈ table) (starts : e.1.toList <+: name)
      (most : ∀ e' ∈ table, e'.1.toList <+: name → e'.1.length ≤ e.1.length) :
      IsFamily table name e.2
  | unknown (none : ∀ e ∈ table, ¬ e.1.toList <+: name) : IsFamily table name defaultFamily

namespace IsFamily

variable {table : Table} {name : List Char} {family : String}

/-- The rule asks which entries a table has and which of them begin the name. -/
theorem congr {table' : Table} {name' : List Char} (htable : ∀ e, e ∈ table ↔ e ∈ table')
    (hname : ∀ e ∈ table, e.1.toList <+: name ↔ e.1.toList <+: name')
    (h : IsFamily table name family) : IsFamily table' name' family := by
  cases h with
  | longest mem starts most =>
    refine .longest ((htable _).mp mem) ((hname _ mem).mp starts) ?_
    intro e' he' hstarts
    have hmem := (htable e').mpr he'
    exact most e' hmem ((hname e' hmem).mpr hstarts)
  | unknown none =>
    refine .unknown ?_
    intro e he hstarts
    have hmem := (htable e).mpr he
    exact none e hmem ((hname e hmem).mpr hstarts)

/-- **A name has one family** if no prefix stands twice in the table. -/
theorem unique (hkeys : (table.map Prod.fst).Nodup) (h : IsFamily table name family)
    {family' : String} (h' : IsFamily table name family') : family = family' := by
  cases h with
  | @longest e mem starts most =>
    cases h' with
    | @longest e' mem' starts' most' =>
      have hlength := Nat.le_antisymm (most' e mem starts) (most e' mem' starts')
      have hfront := List.prefix_of_prefix_length_le starts starts' hlength.le
      have hkey : e.1 = e'.1 := String.toList_inj.mp (hfront.eq_of_length hlength)
      exact congrArg Prod.snd (List.inj_on_of_nodup_map hkeys mem mem' hkey)
    | unknown none' => exact absurd starts (none' e mem)
  | unknown none =>
    cases h' with
    | @longest e' mem' starts' _ => exact absurd starts' (none e' mem')
    | unknown _ => rfl

end IsFamily

/-! ## The walk through a table -/

/-- The walk keeps an entry that is no shorter than those behind it. -/
theorem foldl_longer (entries : Table) (best : String × String) : ∃ e,
    entries.foldl (fun best e => some ((best.map (longer · e)).getD e)) (some best) = some e ∧
      e ∈ best :: entries ∧ ∀ e' ∈ best :: entries, e'.1.length ≤ e.1.length := by
  induction entries generalizing best with
  | nil => exact ⟨best, rfl, List.mem_cons_self, by simp⟩
  | cons e entries ih =>
    obtain ⟨found, hfound, hmem, hmost⟩ := ih (longer best e)
    have hlonger : longer best e ∈ [best, e] ∧ best.1.length ≤ (longer best e).1.length ∧
        e.1.length ≤ (longer best e).1.length := by
      unfold longer
      split
      · exact ⟨List.mem_cons_self, le_rfl, by omega⟩
      · exact ⟨List.mem_cons_of_mem _ List.mem_cons_self, by omega, le_rfl⟩
    obtain ⟨hmem', hbest, he⟩ := hlonger
    have hlength := hmost _ List.mem_cons_self
    refine ⟨found, hfound, ?_, ?_⟩
    · rcases List.mem_cons.mp hmem with rfl | hrest
      · exact List.mem_append_left entries hmem'
      · exact List.mem_append_right [best, e] hrest
    · rw [List.forall_mem_cons, List.forall_mem_cons]
      exact ⟨hbest.trans hlength, he.trans hlength, fun e' he' =>
        hmost e' (List.mem_cons_of_mem _ he')⟩

theorem mem_filter_starts {table : Table} {name : List Char} {e : String × String} :
    e ∈ table.filter (fun e => (dropFront? e.1.toList name).isSome) ↔
      e ∈ table ∧ e.1.toList <+: name := by
  rw [List.mem_filter, Option.isSome_iff_exists]
  simp only [dropFront?_eq_some_iff]
  exact and_congr_right fun _ => exists_congr fun _ => eq_comm

/-- **The walk through a table finds the family of a name.** -/
theorem isFamily_familyByPrefix (table : Table) (name : List Char) :
    IsFamily table name (familyByPrefix table name) := by
  rw [familyByPrefix, longestPrefix?]
  have hstarts : ∀ e, e ∈ table.filter (fun e => (dropFront? e.1.toList name).isSome) ↔
      e ∈ table ∧ e.1.toList <+: name := fun _ => mem_filter_starts
  generalize table.filter (fun e => (dropFront? e.1.toList name).isSome) = entries at hstarts
  cases entries with
  | nil =>
    refine .unknown ?_
    intro e he hname
    exact absurd ((hstarts e).mpr ⟨he, hname⟩) List.not_mem_nil
  | cons best entries =>
    obtain ⟨e, hfound, hmem, hmost⟩ := foldl_longer entries best
    obtain ⟨htable, hname⟩ := (hstarts e).mp hmem
    rw [List.foldl_cons]
    show IsFamily table name ((Option.map (·.2) (entries.foldl _ (some best))).getD defaultFamily)
    rw [hfound]
    exact .longest htable hname fun e' he' hname' => hmost e' ((hstarts e').mpr ⟨he', hname'⟩)

/-! ## The tables -/

theorem nodup_familyPrefixes : (familyPrefixes.map Prod.fst).Nodup := by
  decide +kernel

/-- The families that have a rate are named without a date, and the rule gives them to
themselves. -/
theorem familyByPrefix_of_rate {name : List Char}
    (h : (rateOf? (String.ofList name)).isSome = true) :
    dropDateChars name = name ∧ familyByPrefix familyPrefixes name = String.ofList name := by
  have hall : ∀ key ∈ rates.map Prod.fst, dropDateChars key.toList = key.toList ∧
      familyByPrefix familyPrefixes key.toList = key := by
    decide +kernel
  obtain ⟨rate, hrate⟩ := Option.isSome_iff_exists.mp h
  obtain ⟨before, behind, hrates, -⟩ := List.lookup_eq_some_iff.mp hrate
  have hmem : String.ofList name ∈ rates.map Prod.fst := by
    rw [hrates]
    simp
  have hname := hall _ hmem
  rw [String.toList_ofList] at hname
  exact hname

/-- **The lookups in the table of rates agree with the rule**, whatever the order of the table of
prefixes. -/
theorem isFamily_familyBy {table : Table} (h : table.Perm familyPrefixes) (model : String) :
    IsFamily familyPrefixes (dropDateChars (normalName model)) (familyBy table model) := by
  have hrule : ∀ name, IsFamily familyPrefixes name (familyByPrefix familyPrefixes name) :=
    isFamily_familyByPrefix familyPrefixes
  simp only [familyBy]
  split
  · rename_i hrate
    obtain ⟨hplain, hfamily⟩ := familyByPrefix_of_rate hrate
    rw [hplain, ← hfamily]
    exact hrule _
  split
  · rename_i hrate
    rw [← (familyByPrefix_of_rate hrate).2]
    exact hrule _
  · exact (isFamily_familyByPrefix table _).congr (fun _ => h.mem_iff) fun _ _ => Iff.rfl

theorem isFamily_familyOf (model : String) :
    IsFamily familyPrefixes (dropDateChars (normalName model)) (familyOf model) :=
  isFamily_familyBy (List.Perm.refl _) model

theorem IsFamily.mem {table : Table} {name : List Char} {family : String}
    (h : IsFamily table name family) : family ∈ defaultFamily :: table.map Prod.snd := by
  cases h with
  | longest mem _ _ => exact List.mem_cons_of_mem _ (List.mem_map_of_mem mem)
  | unknown _ => exact List.mem_cons_self

/-- Every family has a rate, and belongs to itself. -/
theorem isSome_rateOf_family : ∀ family ∈ defaultFamily :: familyPrefixes.map Prod.snd,
    (rateOf? family).isSome = true ∧ familyOf family = family := by
  decide +kernel

theorem prefix_iff_of_lowercase {a b : List Char} (h : List.Forall₂ Resembles a b) :
    ∀ e ∈ familyPrefixes, e.1.toList <+: a ↔ e.1.toList <+: b := by
  have hplain : ∀ e ∈ familyPrefixes, 'σ' ∉ e.1.toList ∧ 'ς' ∉ e.1.toList := by
    decide +kernel
  intro e he
  exact prefix_iff_of_resembles h (hplain e he).1 (hplain e he).2

/-- **The family of a model** is the one that the rule gives to its name, trimmed, in lower case
and without a date at its end.  The exact lookups find the same; the order of the table of prefixes
does not matter; the family has a rate of its own; and it belongs to itself. -/
theorem familyOf_rule (model : String) {name plain : List Char}
    (hname : IsLowercase (trimBy isBlank model.toList) name) (hplain : Undated name plain) :
    (∀ family, familyOf model = family ↔ IsFamily familyPrefixes plain family) ∧
      (∀ key, key.toList = name ∨ key.toList = plain → (rateOf? key).isSome = true →
        IsFamily familyPrefixes plain key) ∧
      (∀ table, table.Perm familyPrefixes → familyBy table model = familyOf model) ∧
      (∃ rate, rateOf? (familyOf model) = some rate ∧ priceOf model = (familyOf model, rate)) ∧
      familyOf (familyOf model) = familyOf model := by
  have hundated := undated_iff.mp hplain
  have hresembles : List.Forall₂ Resembles (dropDateChars (normalName model)) plain := by
    rw [hundated]
    exact dropDateChars_of_resembles hname.resembles
  have hrule : IsFamily familyPrefixes plain (familyOf model) :=
    (isFamily_familyOf model).congr (fun _ => Iff.rfl) (prefix_iff_of_lowercase hresembles)
  obtain ⟨hrate, hself⟩ := isSome_rateOf_family _ hrule.mem
  obtain ⟨rate, hrate⟩ := Option.isSome_iff_exists.mp hrate
  refine ⟨?_, ?_, ?_, ⟨rate, hrate, by rw [priceOf, hrate]; rfl⟩, hself⟩
  · intro family
    constructor
    · rintro rfl
      exact hrule
    · exact hrule.unique nodup_familyPrefixes
  · intro key hkey hknown
    rw [← String.ofList_toList (s := key)] at hknown
    obtain ⟨hdate, hfamily⟩ := familyByPrefix_of_rate hknown
    have hkey' : key.toList = plain := by
      rcases hkey with h | h
      · rw [hundated, ← h, hdate]
      · exact h
    have hfound := isFamily_familyByPrefix familyPrefixes key.toList
    rw [hfamily, String.ofList_toList, hkey'] at hfound
    exact hfound
  · intro table htable
    exact (isFamily_familyBy htable model).unique nodup_familyPrefixes (isFamily_familyOf model)

theorem familyOf_rule_sigma :
    IsLowercase (trimBy isBlank " GPT-5.2-ChatΣ-2025-08-07".toList)
        "gpt-5.2-chatς-2025-08-07".toList ∧
      Undated "gpt-5.2-chatς-2025-08-07".toList "gpt-5.2-chatς".toList ∧
      familyOf " GPT-5.2-ChatΣ-2025-08-07" = "gpt-5.2-chat-latest" := by
  have hname : IsLowercase (trimBy isBlank " GPT-5.2-ChatΣ-2025-08-07".toList)
      "gpt-5.2-chatς-2025-08-07".toList := by
    have htrim : trimBy isBlank " GPT-5.2-ChatΣ-2025-08-07".toList =
        "GPT-5.2-Chat".toList ++ 'Σ' :: "-2025-08-07".toList := by
      decide +kernel
    have hlower : "gpt-5.2-chatς-2025-08-07".toList =
        lowercase "GPT-5.2-Chat".toList ++ 'ς' :: lowercase "-2025-08-07".toList := by
      decide +kernel
    rw [htrim, hlower]
    exact (isLowercase_lowercase _).append (.finalSigma (isLowercase_lowercase _))
  have hplain : Undated "gpt-5.2-chatς-2025-08-07".toList "gpt-5.2-chatς".toList :=
    undated_iff.mpr (by decide +kernel)
  refine ⟨hname, hplain, ((familyOf_rule _ hname hplain).1 _).mpr ?_⟩
  exact .longest (e := ("gpt-5.2-chat", "gpt-5.2-chat-latest")) (by decide +kernel)
    (by decide +kernel) (by decide +kernel)

end ArchDiagram.Pricing
