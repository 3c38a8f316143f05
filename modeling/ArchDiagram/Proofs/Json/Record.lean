import ArchDiagram.Json.Record
import Mathlib.Data.List.Forall2

/-!
# Records with optional fields

A record all of whose fields are optional can be read from a value if and only if each field is
left out, `null` or of its type, and no field is named twice.  `IsRecord` says so of the members of
an object and of the items of an array, where no field may be left out; the reader works on the
places of the fields instead (`slots`).

* `slotNamed_iff`, `slotsListed_iff`: the place of one field, and the places in an array.
* `isRecord_iff`: **a record is a value in whose places stand optional fields**.
* `hasField_iff`: **a field has the value that stands in its place**.
* `isRecord_singleton_iff`, `hasField_text_iff`: records of one field, and texts read in a record.
-/

namespace ArchDiagram

/-- What stands in the place of a field may be left out or `null`, and is of the type `P`
otherwise. -/
def Slot.IsOptional (P : Json → Prop) : Slot → Prop
  | .given v => v = .null ∨ P v
  | .unnamed => True
  | .beyond => False

theorem Slot.isOptional_iff {α : Type} {P : Json → Prop} {read : Json → Option α}
    (h : ∀ v, P v ↔ ∃ a, read v = some a) (s : Slot) :
    s.IsOptional P ↔ ∃ a, s.optional read = some a := by
  cases s with
  | given v => cases v <;> simp [optional, IsOptional, h]
  | unnamed => simp [optional, IsOptional]
  | beyond => simp [optional, IsOptional]

def Slot.value? : Slot → Option Json
  | .given v => some v
  | _ => none

theorem Slot.value?_eq_some_iff {s : Slot} {v : Json} : s.value? = some v ↔ s = .given v := by
  cases s <;> simp [value?]

theorem Slot.optional_given {α : Type} {read : Json → Option α} {v : Json} (hv : v ≠ .null) :
    (Slot.given v).optional read = (read v).map some := by
  cases v with
  | null => exact absurd rfl hv
  | bool _ | number _ | string _ | array _ | object _ => rfl

/-- What has been read of a field that may be left out or `null`. -/
theorem Slot.optional_eq_some_iff {α : Type} {read : Json → Option α} {s : Slot} {x : Option α}
    (h : s.optional read = some x) (a : α) :
    x = some a ↔ ∃ v, s = .given v ∧ v ≠ .null ∧ read v = some a := by
  cases s with
  | given v =>
    by_cases hv : v = .null
    · subst hv
      cases h
      simp
    · rw [Slot.optional_given hv] at h
      obtain ⟨b, hb, rfl⟩ := Option.map_eq_some_iff.mp h
      simp [hv, hb]
  | unnamed =>
    cases h
    simp
  | beyond => cases h

/-- A value with a property stands in a place if and only if what has been read of it has what
corresponds to the property. -/
theorem Slot.exists_given_iff {α : Type} {read : Json → Option α} {s : Slot} {x : Option α}
    (h : s.optional read = some x) {P : Json → Prop} {Q : α → Prop} (hnull : ¬ P .null)
    (hread : ∀ v a, read v = some a → (P v ↔ Q a)) :
    (∃ v, s = .given v ∧ P v) ↔ ∃ a, x = some a ∧ Q a := by
  simp only [Slot.optional_eq_some_iff h]
  constructor
  · rintro ⟨v, rfl, hv⟩
    have hne : v ≠ .null := fun heq => hnull (heq ▸ hv)
    rw [Slot.optional_given hne, Option.map_eq_some_iff] at h
    obtain ⟨a, ha, -⟩ := h
    exact ⟨a, ⟨v, rfl, hne, ha⟩, (hread v a ha).mp hv⟩
  · rintro ⟨a, ⟨v, rfl, -, ha⟩, hq⟩
    exact ⟨v, rfl, (hread v a ha).mpr hq⟩

namespace Json

/-- The names of the fields of a record, each with its type. -/
abbrev Fields := List (String × (Json → Prop))

/-- A value that describes a record with these fields, all of them optional. -/
inductive IsRecord (fields : Fields) : Json → Prop
  /-- Every key of an object denotes a text and no field is named twice. -/
  | object {ms : List (Option String × Json)} (keys : ∀ m ∈ ms, m.1.isSome = true)
      (once : ∀ f ∈ fields, (ms.map Prod.fst).count (some f.1) ≤ 1)
      (values : ∀ f ∈ fields, ∀ v, (some f.1, v) ∈ ms → v = .null ∨ f.2 v) :
      IsRecord fields (.object ms)
  /-- An array has one item for each field. -/
  | array {vs : List Json} (items : List.Forall₂ (fun f v => v = .null ∨ f.2 v) fields vs) :
      IsRecord fields (.array vs)

/-! ## The place of one field -/

theorem mem_filter_name {ms : List (Option String × Json)} {name : String} {v : Json} :
    (some name, v) ∈ ms.filter (fun m => m.1 = some name) ↔ (some name, v) ∈ ms := by
  simp

theorem length_filter_name (ms : List (Option String × Json)) (name : String) :
    (ms.filter fun m => m.1 = some name).length = (ms.map Prod.fst).count (some name) := by
  induction ms with
  | nil => rfl
  | cons m ms ih =>
    by_cases hm : m.1 = some name
    · simp [hm, ih]
    · simp [hm, ih]

/-- A member that is the only one of its name stands in the place of its field. -/
theorem slotNamed_eq_given_iff {ms : List (Option String × Json)} {name : String} {s : Slot}
    (h : slotNamed ms name = some s) (v : Json) : s = .given v ↔ (some name, v) ∈ ms := by
  rw [← mem_filter_name]
  rw [slotNamed] at h
  have hname : ∀ m ∈ ms.filter (fun m => m.1 = some name), m.1 = some name := by simp
  generalize ms.filter (fun m => m.1 = some name) = found at h hname
  match found, h with
  | [], h =>
    cases h
    simp
  | [m], h =>
    cases h
    have hm : m = (some name, m.2) := Prod.ext (hname m List.mem_cons_self) rfl
    rw [hm]
    simp [eq_comm]
  | _ :: _ :: _, h => cases h

/-- The place of a field is found if and only if it is not named twice. -/
theorem slotNamed_isSome_iff (ms : List (Option String × Json)) (name : String) :
    (slotNamed ms name).isSome = true ↔ (ms.map Prod.fst).count (some name) ≤ 1 := by
  rw [← length_filter_name, slotNamed]
  generalize ms.filter (fun m => m.1 = some name) = found
  match found with
  | [] => simp
  | [_] => simp
  | _ :: _ :: _ => simp

theorem slotNamed_iff {ms : List (Option String × Json)} {name : String} {P : Json → Prop} :
    (∃ s, slotNamed ms name = some s ∧ s.IsOptional P) ↔
      (ms.map Prod.fst).count (some name) ≤ 1 ∧
        ∀ v, (some name, v) ∈ ms → v = .null ∨ P v := by
  rw [← slotNamed_isSome_iff]
  constructor
  · rintro ⟨s, hs, hP⟩
    refine ⟨by rw [hs]; rfl, ?_⟩
    intro v hv
    rw [← slotNamed_eq_given_iff hs] at hv
    rw [hv] at hP
    exact hP
  · rintro ⟨hsome, hvalues⟩
    obtain ⟨s, hs⟩ := Option.isSome_iff_exists.mp hsome
    refine ⟨s, hs, ?_⟩
    cases s with
    | given v => exact hvalues v ((slotNamed_eq_given_iff hs v).mp rfl)
    | unnamed => trivial
    | beyond =>
      rw [slotNamed] at hs
      split at hs <;> cases hs

/-! ## All places -/

theorem mapM_slotNamed_iff {ms : List (Option String × Json)} (fields : Fields) :
    (∃ ss, (fields.map (·.1)).mapM (slotNamed ms) = some ss ∧
      List.Forall₂ (fun f s => Slot.IsOptional f.2 s) fields ss) ↔
      ∀ f ∈ fields, ∃ s, slotNamed ms f.1 = some s ∧ s.IsOptional f.2 := by
  induction fields with
  | nil => simp
  | cons f fields ih =>
    rw [List.forall_mem_cons, ← ih]
    constructor
    · rintro ⟨ss, hss, hall⟩
      simp only [List.map_cons, List.mapM_cons, Option.bind_eq_bind, Option.bind_eq_some_iff,
        Option.pure_def, Option.some.injEq] at hss
      obtain ⟨s, hs, ss', hss', rfl⟩ := hss
      rw [List.forall₂_cons] at hall
      exact ⟨⟨s, hs, hall.1⟩, ss', hss', hall.2⟩
    · rintro ⟨⟨s, hs, hP⟩, ss, hss, hall⟩
      refine ⟨s :: ss, ?_, List.forall₂_cons.mpr ⟨hP, hall⟩⟩
      simp [hs, hss]

theorem slotsListed_iff (fields : Fields) (vs : List Json) :
    (∃ ss, slotsListed (fields.map (·.1)) vs = some ss ∧
      List.Forall₂ (fun f s => Slot.IsOptional f.2 s) fields ss) ↔
      List.Forall₂ (fun f v => v = .null ∨ f.2 v) fields vs := by
  induction fields generalizing vs with
  | nil =>
    cases vs with
    | nil => simp [slotsListed]
    | cons v vs => simp [slotsListed]
  | cons f fields ih =>
    cases vs with
    | nil =>
      simp only [List.map_cons, slotsListed, Option.map_eq_some_iff]
      constructor
      · rintro ⟨_, ⟨ss, -, rfl⟩, hall⟩
        exact absurd (List.forall₂_cons.mp hall).1 id
      · intro hall
        cases hall
    | cons v vs =>
      simp only [List.map_cons, slotsListed, Option.map_eq_some_iff, List.forall₂_cons, ← ih]
      constructor
      · rintro ⟨_, ⟨ss, hss, rfl⟩, hall⟩
        rw [List.forall₂_cons] at hall
        exact ⟨hall.1, ss, hss, hall.2⟩
      · rintro ⟨hv, ss, hss, hall⟩
        exact ⟨_, ⟨ss, hss, rfl⟩, List.forall₂_cons.mpr ⟨hv, hall⟩⟩

/-- **A value describes a record if and only if its fields stand in their places**, or are left
out. -/
theorem isRecord_iff {fields : Fields} {j : Json} : j.IsRecord fields ↔
    ∃ ss, j.slots (fields.map (·.1)) = some ss ∧
      List.Forall₂ (fun f s => Slot.IsOptional f.2 s) fields ss := by
  cases j with
  | object ms =>
    rw [slots]
    by_cases hkeys : ms.all (fun m => m.1.isSome) = true
    · rw [if_pos hkeys, mapM_slotNamed_iff]
      simp only [slotNamed_iff]
      constructor
      · intro h
        cases h with
        | object _ once values => exact fun f hf => ⟨once f hf, values f hf⟩
      · intro h
        exact .object (List.all_eq_true.mp hkeys) (fun f hf => (h f hf).1) fun f hf => (h f hf).2
    · rw [if_neg hkeys]
      constructor
      · intro h
        cases h with
        | object keys _ _ => exact absurd (List.all_eq_true.mpr keys) hkeys
      · rintro ⟨ss, hss, -⟩
        cases hss
  | array vs =>
    rw [slots, slotsListed_iff]
    constructor
    · intro h
      cases h with
      | array items => exact items
    · exact .array
  | null | bool _ | number _ | string _ =>
    constructor
    · intro h
      cases h
    · rintro ⟨ss, hss, -⟩
      cases hss

/-! ## The value of a field -/

/-- A record with these fields in which one of them has a value, be the record written as an object
or as an array. -/
def HasField (j : Json) (names : List String) (name : String) (v : Json) : Prop :=
  match j with
  | .object ms => (some name, v) ∈ ms
  | .array vs => (name, v) ∈ names.zip vs
  | _ => False

theorem mem_zip_slotNamed {ms : List (Option String × Json)} {names : List String} {ss : List Slot}
    (h : names.mapM (slotNamed ms) = some ss) {name : String} {s : Slot}
    (hs : (name, s) ∈ names.zip ss) : slotNamed ms name = some s := by
  induction names generalizing ss with
  | nil => cases hs
  | cons n names ih =>
    simp only [List.mapM_cons, Option.bind_eq_bind, Option.bind_eq_some_iff, Option.pure_def,
      Option.some.injEq] at h
    obtain ⟨s', hs', ss', hss', rfl⟩ := h
    rcases List.mem_cons.mp hs with heq | hs
    · cases heq
      exact hs'
    · exact ih hss' hs

/-- The field of an array has the value that stands in its place. -/
theorem mem_zip_slotsListed {names : List String} (hnames : names.Nodup) {vs : List Json}
    {ss : List Slot} (h : slotsListed names vs = some ss) {name : String} {s : Slot}
    (hs : (name, s) ∈ names.zip ss) (v : Json) : s = .given v ↔ (name, v) ∈ names.zip vs := by
  induction names generalizing vs ss with
  | nil => cases hs
  | cons n names ih =>
    obtain ⟨hn, hnames⟩ := List.nodup_cons.mp hnames
    cases vs with
    | nil =>
      obtain ⟨ss, hss, rfl⟩ := Option.map_eq_some_iff.mp h
      rcases List.mem_cons.mp hs with heq | hs
      · cases heq
        simp
      · simpa using ih hnames hss hs
    | cons w vs =>
      obtain ⟨ss, hss, rfl⟩ := Option.map_eq_some_iff.mp h
      rw [List.zip_cons_cons, List.mem_cons]
      have hfresh : ∀ {β : Type} {x : β} {xs : List β}, (n, x) ∉ names.zip xs :=
        fun hmem => hn (List.of_mem_zip hmem).1
      rcases List.mem_cons.mp hs with heq | htail
      · cases heq
        simp [hfresh, eq_comm]
      · have hne : name ≠ n := by
          intro heq
          rw [heq] at htail
          exact hfresh htail
        rw [ih hnames hss htail]
        simp [hne]

/-- **A field has the value that stands in its place.** -/
theorem hasField_iff {j : Json} {names : List String} {ss : List Slot} (hnames : names.Nodup)
    (h : j.slots names = some ss) {name : String} {s : Slot} (hs : (name, s) ∈ names.zip ss)
    (v : Json) : j.HasField names name v ↔ s = .given v := by
  cases j with
  | object ms =>
    rw [slots] at h
    split at h
    · exact (slotNamed_eq_given_iff (mem_zip_slotNamed h hs) v).symm
    · cases h
  | array vs => exact (mem_zip_slotsListed hnames h hs v).symm
  | null | bool _ | number _ | string _ => cases h

theorem slotNamed_ne_beyond (ms : List (Option String × Json)) (name : String) :
    slotNamed ms name ≠ some .beyond := by
  rw [slotNamed]
  split <;> exact nofun

theorem slotsListed_nil (names : List String) :
    slotsListed names [] = some (List.replicate names.length .beyond) := by
  induction names with
  | nil => rfl
  | cons n names ih =>
    rw [slotsListed, ih]
    rfl

/-- Behind the end of an array there is nothing. -/
theorem slots_beyond {j : Json} {name : String} {names : List String} {ss : List Slot}
    (h : j.slots (name :: names) = some (.beyond :: ss)) : ∀ s ∈ ss, s = .beyond := by
  cases j with
  | object ms =>
    rw [slots] at h
    split at h
    · simp only [List.mapM_cons, Option.bind_eq_bind, Option.bind_eq_some_iff, Option.pure_def,
        Option.some.injEq, List.cons.injEq] at h
      obtain ⟨s, hs, -, -, rfl, -⟩ := h
      exact absurd hs (slotNamed_ne_beyond ms name)
    · cases h
  | array vs =>
    cases vs with
    | nil =>
      rw [slots, slotsListed, slotsListed_nil] at h
      cases h
      exact fun s hs => List.eq_of_mem_replicate hs
    | cons v vs =>
      simp [slots, slotsListed] at h
  | null | bool _ | number _ | string _ => cases h

def IsText (v : Json) : Prop :=
  ∃ s, v = .text s

theorem text?_eq_some_iff {v : Json} {s : String} : v.text? = some s ↔ v = .text s := by
  cases v <;> simp [text?, text]

theorem isText_iff (v : Json) : v.IsText ↔ ∃ s, v.text? = some s := by
  simp only [text?_eq_some_iff, IsText]

/-! ## Records of one or two fields -/

theorem length_mapM_slotNamed {ms : List (Option String × Json)} {names : List String}
    {ss : List Slot} (h : names.mapM (slotNamed ms) = some ss) : ss.length = names.length := by
  induction names generalizing ss with
  | nil =>
    cases h
    rfl
  | cons name names ih =>
    simp only [List.mapM_cons, Option.bind_eq_bind, Option.bind_eq_some_iff, Option.pure_def,
      Option.some.injEq] at h
    obtain ⟨s, -, ss', hss', rfl⟩ := h
    rw [List.length_cons, List.length_cons, ih hss']

theorem length_slotsListed {names : List String} {vs : List Json} {ss : List Slot}
    (h : slotsListed names vs = some ss) : ss.length = names.length := by
  induction names generalizing vs ss with
  | nil =>
    cases vs <;> cases h
    rfl
  | cons name names ih =>
    cases vs with
    | nil =>
      obtain ⟨ss', hss', rfl⟩ := Option.map_eq_some_iff.mp h
      rw [List.length_cons, List.length_cons, ih hss']
    | cons v vs =>
      obtain ⟨ss', hss', rfl⟩ := Option.map_eq_some_iff.mp h
      rw [List.length_cons, List.length_cons, ih hss']

theorem length_slots {j : Json} {names : List String} {ss : List Slot}
    (h : j.slots names = some ss) : ss.length = names.length := by
  cases j with
  | object ms =>
    rw [slots] at h
    split at h
    · exact length_mapM_slotNamed h
    · cases h
  | array vs => exact length_slotsListed h
  | null | bool _ | number _ | string _ => cases h

theorem slots_singleton {j : Json} {name : String} {ss : List Slot}
    (h : j.slots [name] = some ss) : ∃ s, ss = [s] :=
  List.length_eq_one_iff.mp (length_slots h)

theorem slots_pair {j : Json} {a b : String} {ss : List Slot} (h : j.slots [a, b] = some ss) :
    ∃ s t, ss = [s, t] :=
  List.length_eq_two.mp (length_slots h)

theorem isRecord_singleton_iff {j : Json} {name : String} {P : Json → Prop} :
    j.IsRecord [(name, P)] ↔ ∃ s, j.slots [name] = some [s] ∧ s.IsOptional P := by
  simp [isRecord_iff, List.forall₂_cons_left_iff]

/-- What has been read of a text that may be left out is what the field is. -/
theorem hasField_text_iff {j : Json} {names : List String} {ss : List Slot} (hnames : names.Nodup)
    (h : j.slots names = some ss) {name : String} {s : Slot} (hs : (name, s) ∈ names.zip ss)
    {x : Option String} (hx : s.optional text? = some x) (t : String) :
    j.HasField names name (.text t) ↔ x = some t := by
  rw [hasField_iff hnames h hs, Slot.optional_eq_some_iff hx]
  simp only [text?_eq_some_iff]
  constructor
  · rintro rfl
    exact ⟨_, rfl, nofun, rfl⟩
  · rintro ⟨_, rfl, -, rfl⟩
    rfl

/-- An array has no place for its only field if and only if it is empty. -/
theorem slots_eq_beyond_iff {j : Json} {name : String} :
    j.slots [name] = some [.beyond] ↔ j = .array [] := by
  cases j with
  | object ms =>
    rw [slots]
    constructor
    · intro h
      split at h
      · simp only [List.mapM_cons, List.mapM_nil, Option.bind_eq_bind, Option.bind_eq_some_iff,
          Option.pure_def, Option.some.injEq] at h
        obtain ⟨s, hs, _, rfl, hcons⟩ := h
        cases hcons
        exact absurd hs (slotNamed_ne_beyond ms name)
      · cases h
    · exact nofun
  | array vs =>
    match vs with
    | [] => simp [slots, slotsListed]
    | [v] => simp [slots, slotsListed]
    | v :: w :: vs => simp [slots, slotsListed]
  | null | bool _ | number _ | string _ => simp [slots]

end Json

end ArchDiagram
