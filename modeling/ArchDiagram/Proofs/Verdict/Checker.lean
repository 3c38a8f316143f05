import ArchDiagram.Proofs.Json.Read
import ArchDiagram.Proofs.Json.Record
import ArchDiagram.Proofs.Text.Scan
import ArchDiagram.Service

/-!
# What a verdict rests on

A diagram is accepted on the strength of a report only: the checker ended with success, all that it
printed is one value, and this value is a report that says so.  Everything else rejects the diagram,
with a message that has gone through `Verdict.normalMessage`.

* `Verdict.isUsable_normalMessage`: **a normal message can be shown**.
* `Checker.IsReport`: values that are reports.
* `Checker.ofReport?_isSome_iff`, `Checker.ofReport?_conveys`: **reports are what is read, and the
  verdict says what the report says**.
* `Settings.check_judges`: **what the verdict on a diagram rests on**.
-/

namespace ArchDiagram

/-! ## Messages -/

namespace Verdict

/-- A message that can be shown: it is not empty, no fault of the checker itself stands in it, and it
is already as it is shown. -/
structure IsUsable (message : String) : Prop where
  ne_empty : message ≠ ""
  unmarked : ∀ mark ∈ faultMarks, ¬ mark.toList <:+: message.toList
  normal : normalMessage (some message) = message

theorem isCheckerFault_iff {message : String} : isCheckerFault message = true ↔
    ∃ mark ∈ faultMarks, mark.toList <:+: message.toList := by
  simp only [isCheckerFault, List.any_eq_true, Text.contains_iff]

theorem isUsable_of_isCheckerFault {message : String} (hne : message ≠ "")
    (hfault : isCheckerFault message = false) : IsUsable message where
  ne_empty := hne
  unmarked := by
    intro mark hmark hinfix
    rw [isCheckerFault_iff.mpr ⟨mark, hmark, hinfix⟩] at hfault
    cases hfault
  normal := by
    rw [normalMessage, if_neg (by simpa using hne), hfault]
    rfl

theorem isUsable_unexplained : IsUsable unexplained :=
  isUsable_of_isCheckerFault (by decide) (by decide +kernel)

theorem isUsable_checkerFault : IsUsable checkerFault :=
  isUsable_of_isCheckerFault (by decide) (by decide +kernel)

/-- **A normal message can be shown**, whatever the checker said. -/
theorem isUsable_normalMessage (said : Option String) : IsUsable (normalMessage said) := by
  cases said with
  | none => exact isUsable_unexplained
  | some message =>
    rw [normalMessage]
    split
    · exact isUsable_unexplained
    · rename_i hne
      split
      · exact isUsable_checkerFault
      · rename_i hfault
        exact isUsable_of_isCheckerFault (by simpa using hne) (by simpa using hfault)

end Verdict

namespace Checker

/-! ## Places of details -/

theorem anything?_eq_some_iff {depth : Nat} {v w : Json} :
    anything? depth v = some w ↔ v = w ∧ v.isSound depth = true := by
  rw [anything?]
  split <;> simp_all

theorem mapM_anything? {depth : Nat} {vs ws : List Json} :
    vs.mapM (anything? depth) = some ws ↔ vs = ws ∧ ∀ v ∈ vs, v.isSound depth = true := by
  induction vs generalizing ws with
  | nil => simp
  | cons v vs ih =>
    rw [List.mapM_cons, List.forall_mem_cons]
    simp only [Option.bind_eq_bind, Option.bind_eq_some_iff, Option.pure_def, Option.some.injEq,
      anything?_eq_some_iff, ih]
    constructor
    · rintro ⟨_, ⟨rfl, hv⟩, _, ⟨rfl, hvs⟩, rfl⟩
      exact ⟨rfl, hv, hvs⟩
    · rintro ⟨rfl, hv, hvs⟩
      exact ⟨v, ⟨rfl, hv⟩, vs, ⟨rfl, hvs⟩, rfl⟩

/-- What is made of a detail is made of the value that stands in its place, if nothing is made of
`null`. -/
theorem bind_of_detail {depth : Nat} {s : Slot} {x : Option Json}
    (h : s.optional (anything? depth) = some x) {α : Type} {read : Json → Option α}
    (hnull : read .null = none) : x.bind read = s.value?.bind read := by
  cases s with
  | given v =>
    by_cases hv : v = .null
    · subst hv
      cases h
      exact hnull.symm
    · rw [Slot.optional_given hv] at h
      obtain ⟨w, hw, rfl⟩ := Option.map_eq_some_iff.mp h
      obtain ⟨rfl, -⟩ := anything?_eq_some_iff.mp hw
      rfl
  | unnamed =>
    cases h
    rfl
  | beyond => cases h

theorem text_of_detail {depth : Nat} {s : Slot} {x : Option Json}
    (h : s.optional (anything? depth) = some x) (t : String) :
    x.bind Json.text? = some t ↔ s = .given (.text t) := by
  rw [bind_of_detail h rfl, Option.bind_eq_some_iff]
  simp [Json.text?_eq_some_iff, Slot.value?_eq_some_iff]

theorem items_eq_some_iff {depth : Nat} {v : Json} {items : List Json} :
    (v.items?.bind fun xs => xs.mapM (anything? depth)) = some items ↔
      v = .array items ∧ v.isSound (depth + 1) = true := by
  cases v with
  | array xs =>
    show xs.mapM (anything? depth) = some items ↔ _
    rw [mapM_anything?, Json.isSound, List.all_eq_true, Json.array.injEq]
  | _ => simp [Json.items?]

theorem items_of_details {depth : Nat} {s : Slot} {x : Option (List Json)}
    (h : s.optional (fun v => v.items?.bind fun xs => xs.mapM (anything? depth)) = some x)
    (items : List Json) : x = some items ↔ s = .given (.array items) := by
  rw [Slot.optional_eq_some_iff h]
  simp only [items_eq_some_iff]
  constructor
  · rintro ⟨_, rfl, -, rfl, -⟩
    rfl
  · rintro rfl
    rw [Slot.optional_given (by simp)] at h
    obtain ⟨ys, hys, -⟩ := Option.map_eq_some_iff.mp h
    exact ⟨_, rfl, by simp, rfl, (items_eq_some_iff.mp hys).2⟩

/-! ## Reports -/

/-- A value of any kind in which every literal denotes something, not nested too deeply. -/
def IsDetail (v : Json) : Prop :=
  v.isSound reportDepth = true

def reportFields : Json.Fields :=
  [("valid", fun v => ∃ b, v = .bool b), ("message", IsDetail), ("line", IsDetail),
    ("token", IsDetail), ("expected", fun v => IsDetail v ∧ ∃ items, v = .array items)]

abbrev Gives (j : Json) (name : String) (v : Json) : Prop :=
  j.HasField (reportFields.map (·.1)) name v

/-- A value that is a report.  Details may be left out or `null`, and be of any kind apart from the
list of what was expected.  An object may also leave out the judgement, which `null` cannot stand
for. -/
structure IsReport (j : Json) : Prop where
  record : j.IsRecord reportFields
  judged : ¬ Gives j "valid" .null

theorem isDetail_iff (v : Json) : IsDetail v ↔ ∃ w, anything? reportDepth v = some w := by
  simp [anything?_eq_some_iff, IsDetail]

theorem isDetailList_iff (v : Json) : (IsDetail v ∧ ∃ items, v = .array items) ↔
    ∃ items, (v.items?.bind fun xs => xs.mapM (anything? (reportDepth - 1))) = some items := by
  simp only [items_eq_some_iff, IsDetail]
  constructor
  · rintro ⟨hv, items, rfl⟩
    exact ⟨items, rfl, hv⟩
  · rintro ⟨items, rfl, hv⟩
    exact ⟨hv, items, rfl⟩

/-- The judgement may be left out of an object, but is a truth value where it is given. -/
theorem judgement_iff {s : Slot} (hs : s ≠ .beyond) : (∃ b, s.orElse false Json.bool? = some b) ↔
    s.IsOptional (fun v => ∃ b, v = .bool b) ∧ s ≠ .given .null := by
  cases s with
  | given v => cases v <;> simp [Slot.orElse, Slot.IsOptional, Json.bool?]
  | unnamed => simp [Slot.orElse, Slot.IsOptional]
  | beyond => exact absurd rfl hs

theorem judgement_eq_true_iff {s : Slot} {b : Bool} (h : s.orElse false Json.bool? = some b) :
    b = true ↔ s = .given (.bool true) := by
  cases s with
  | given v => cases v <;> simp_all [Slot.orElse, Json.bool?]
  | unnamed | beyond => simp_all [Slot.orElse]

/-- What is read of a report, place by place. -/
theorem ofReport?_eq_some_iff {j : Json} {w : Verdict} : ofReport? j = some w ↔
    ∃ v m l t e, j.slots (reportFields.map (·.1)) = some [v, m, l, t, e] ∧
      ∃ valid, v.orElse false Json.bool? = some valid ∧
      ∃ message, m.optional (anything? reportDepth) = some message ∧
      ∃ line, l.optional (anything? reportDepth) = some line ∧
      ∃ token, t.optional (anything? reportDepth) = some token ∧
      ∃ expected, e.optional (fun x => x.items?.bind fun xs =>
          xs.mapM (anything? (reportDepth - 1))) = some expected ∧
        w = {
          valid := valid
          message := if valid then message.bind Json.text?
            else some (Verdict.normalMessage (message.bind Json.text?))
          line := line.bind (Json.natural? (Decimal.twoTo 32))
          token := token.bind Json.text?
          expected := expected.map (·.filterMap Json.text?) } := by
  rw [ofReport?, Option.bind_eq_bind, Option.bind_eq_some_iff]
  constructor
  · rintro ⟨ss, hss, h⟩
    split at h
    · rename_i v m l t e
      simp only [Option.bind_eq_bind, Option.bind_eq_some_iff, Option.pure_def,
        Option.some.injEq] at h
      obtain ⟨valid, hv, message, hm, line, hl, token, ht, expected, he, rfl⟩ := h
      exact ⟨v, m, l, t, e, hss, valid, hv, message, hm, line, hl, token, ht, expected, he, rfl⟩
    · cases h
  · rintro ⟨v, m, l, t, e, hss, valid, hv, message, hm, line, hl, token, ht, expected, he, rfl⟩
    refine ⟨_, hss, ?_⟩
    simp only [Option.bind_eq_bind, hv, hm, hl, ht, he, Option.bind_some]
    rfl

/-- **Reports are what is read.** -/
theorem ofReport?_isSome_iff (j : Json) : IsReport j ↔ ∃ w, ofReport? j = some w := by
  have hnames : (reportFields.map (·.1)).Nodup := by decide
  simp only [ofReport?_eq_some_iff]
  constructor
  · rintro ⟨hrecord, hjudged⟩
    obtain ⟨ss, hss, hall⟩ := Json.isRecord_iff.mp hrecord
    match ss, hss, hall with
    | [v, m, l, t, e], hss, .cons hv (.cons hm (.cons hl (.cons ht (.cons he .nil)))) =>
      rw [Gives, Json.hasField_iff (s := v) hnames hss (by simp [reportFields])] at hjudged
      have hbeyond : v ≠ .beyond := by
        rintro rfl
        exact hv
      obtain ⟨valid, hvalid⟩ := (judgement_iff hbeyond).mpr ⟨hv, hjudged⟩
      obtain ⟨message, hmessage⟩ := (Slot.isOptional_iff isDetail_iff m).mp hm
      obtain ⟨line, hline⟩ := (Slot.isOptional_iff isDetail_iff l).mp hl
      obtain ⟨token, htoken⟩ := (Slot.isOptional_iff isDetail_iff t).mp ht
      obtain ⟨expected, hexpected⟩ := (Slot.isOptional_iff isDetailList_iff e).mp he
      exact ⟨_, v, m, l, t, e, hss, valid, hvalid, message, hmessage, line, hline, token, htoken,
        expected, hexpected, rfl⟩
  · rintro ⟨_, v, m, l, t, e, hss, valid, hv, message, hm, line, hl, token, ht, expected, he, -⟩
    have hbeyond : v ≠ .beyond := by
      rintro rfl
      have hm' : m = .beyond := Json.slots_beyond hss m List.mem_cons_self
      rw [hm'] at hm
      cases hm
    obtain ⟨hv, hjudged⟩ := (judgement_iff hbeyond).mp ⟨valid, hv⟩
    constructor
    · refine Json.isRecord_iff.mpr ⟨_, hss, .cons hv (.cons ?_ (.cons ?_ (.cons ?_ (.cons ?_ .nil))))⟩
      · exact (Slot.isOptional_iff isDetail_iff m).mpr ⟨message, hm⟩
      · exact (Slot.isOptional_iff isDetail_iff l).mpr ⟨line, hl⟩
      · exact (Slot.isOptional_iff isDetail_iff t).mpr ⟨token, ht⟩
      · exact (Slot.isOptional_iff isDetailList_iff e).mpr ⟨expected, he⟩
    · rw [Gives, Json.hasField_iff (s := v) hnames hss (by simp [reportFields])]
      exact hjudged

/-- The verdict `w` says what the report `j` says. -/
structure Conveys (j : Json) (w : Verdict) : Prop where
  valid_iff : w.valid = true ↔ Gives j "valid" (.bool true)
  /-- Only the message of a rejection is put in order. -/
  message : ∃ said, (∀ m, said = some m ↔ Gives j "message" (.text m)) ∧
    w.message = if w.valid then said else some (Verdict.normalMessage said)
  line : ∀ v, Gives j "line" v → w.line = v.natural? (Decimal.twoTo 32)
  no_line : (∀ v, ¬ Gives j "line" v) → w.line = none
  token_iff : ∀ t, w.token = some t ↔ Gives j "token" (.text t)
  expected_iff : ∀ es, w.expected = some es ↔
    ∃ items, Gives j "expected" (.array items) ∧ items.filterMap Json.text? = es

/-- **The verdict on a report says what the report says.** -/
theorem ofReport?_conveys {j : Json} {w : Verdict} (h : ofReport? j = some w) : Conveys j w := by
  obtain ⟨v, m, l, t, e, hss, valid, hv, message, hm, line, hl, token, ht, expected, he, rfl⟩ :=
    ofReport?_eq_some_iff.mp h
  have hgives : ∀ {name : String} {s : Slot},
      (name, s) ∈ (reportFields.map (·.1)).zip [v, m, l, t, e] →
        ∀ x, Gives j name x ↔ s = .given x :=
    fun hs x => Json.hasField_iff (by decide) hss hs x
  have hvalid : ∀ x, Gives j "valid" x ↔ v = .given x := hgives (by simp [reportFields])
  have hmessage : ∀ x, Gives j "message" x ↔ m = .given x := hgives (by simp [reportFields])
  have hline : ∀ x, Gives j "line" x ↔ l = .given x := hgives (by simp [reportFields])
  have htoken : ∀ x, Gives j "token" x ↔ t = .given x := hgives (by simp [reportFields])
  have hexpected : ∀ x, Gives j "expected" x ↔ e = .given x := hgives (by simp [reportFields])
  constructor
  · rw [hvalid]
    exact judgement_eq_true_iff hv
  · refine ⟨message.bind Json.text?, fun a => ?_, rfl⟩
    rw [hmessage]
    exact text_of_detail hm a
  · intro x hx
    rw [hline, ← Slot.value?_eq_some_iff] at hx
    show line.bind _ = _
    rw [bind_of_detail hl rfl, hx, Option.bind_some]
  · intro hnone
    have hvalue : l.value? = none := by
      rw [Option.eq_none_iff_forall_ne_some]
      intro x hx
      rw [Slot.value?_eq_some_iff, ← hline] at hx
      exact hnone x hx
    show line.bind _ = _
    rw [bind_of_detail hl rfl, hvalue, Option.bind_none]
  · intro a
    rw [htoken]
    exact text_of_detail ht a
  · intro es
    simp only [hexpected, ← items_of_details he]
    exact Option.map_eq_some_iff

theorem twoTo_le : Decimal.twoTo 32 ≤ Decimal.twoTo 64 := by
  decide

/-- A line is a natural number that the report gives. -/
theorem Conveys.line_iff {j : Json} {w : Verdict} (h : Conveys j w) (hj : j.IsPlain) (n : Nat) :
    w.line = some n ↔ Gives j "line" (.nat n) ∧ n < 2 ^ 32 := by
  constructor
  · intro hn
    obtain ⟨v, hv⟩ : ∃ v, Gives j "line" v := by
      by_contra hnone
      rw [h.no_line (not_exists.mp hnone)] at hn
      cases hn
    rw [h.line v hv, (hj.of_hasField hv).natural?_eq_some_iff twoTo_le] at hn
    obtain ⟨rfl, hlt⟩ := hn
    exact ⟨hv, hlt⟩
  · rintro ⟨hv, hlt⟩
    rw [h.line _ hv, (hj.of_hasField hv).natural?_eq_some_iff twoTo_le]
    exact ⟨rfl, hlt⟩

theorem Conveys.line_none {j : Json} {w : Verdict} (h : Conveys j w) (hj : j.IsPlain) {n : Nat}
    (hn : Gives j "line" (.nat n)) (hge : 2 ^ 32 ≤ n) : w.line = none := by
  rw [h.line _ hn, Option.eq_none_iff_forall_ne_some]
  intro k hk
  rw [(hj.of_hasField hn).natural?_eq_some_iff twoTo_le] at hk
  have hnk : n = k := Json.nat_injective hk.1
  rw [hnk] at hge
  exact absurd hk.2 (Nat.not_lt.mpr hge)

/-! ## Verdicts -/

/-- The checker ended with success, and all that it printed is the report `j`. -/
def Reports (o : Outcome) (j : Json) : Prop :=
  ∃ out err, o = .ended true out err ∧ Json.ofOctets? out = some j ∧ IsReport j

/-- The checker ended with success, and all that it printed is a report that gives the value `v` to
the field `name`. -/
def Says (o : Outcome) (name : String) (v : Json) : Prop :=
  ∃ j, Reports o j ∧ Gives j name v

theorem Reports.isPlain {o : Outcome} {j : Json} (h : Reports o j) : j.IsPlain := by
  obtain ⟨out, err, -, hj, -⟩ := h
  exact Json.isPlain_of_ofOctets? hj

theorem Reports.unique {o : Outcome} {j k : Json} (hj : Reports o j) (hk : Reports o k) : j = k := by
  obtain ⟨out, err, rfl, hj, -⟩ := hj
  obtain ⟨out', err', heq, hk, -⟩ := hk
  cases heq
  rw [hj] at hk
  exact Option.some.inj hk

theorem Reports.says_iff {o : Outcome} {j : Json} (h : Reports o j) {name : String} {v : Json} :
    Says o name v ↔ Gives j name v := by
  constructor
  · rintro ⟨k, hk, hv⟩
    rwa [h.unique hk]
  · intro hv
    exact ⟨j, h, hv⟩

theorem Reports.conveys {o : Outcome} {j : Json} (h : Reports o j) : Conveys j (verdict o) := by
  obtain ⟨out, err, rfl, hj, hreport⟩ := h
  obtain ⟨w, hw⟩ := (ofReport?_isSome_iff j).mp hreport
  have hverdict : verdict (.ended true out err) = w := by
    rw [verdict, hj, Option.bind_some, hw]
  rw [hverdict]
  exact ofReport?_conveys hw

/-- Whatever is no report rejects the diagram. -/
theorem verdict_of_not_reports {o : Outcome} (h : ∀ j, ¬ Reports o j) :
    ∃ reason, verdict o = .rejected reason := by
  cases o with
  | unstartable reason => exact ⟨reason, rfl⟩
  | ended success out err =>
    cases success with
    | false => exact ⟨complaint out err, rfl⟩
    | true =>
      refine ⟨"Mermaid validator returned invalid JSON.", ?_⟩
      have hnone : (Json.ofOctets? out).bind ofReport? = none := by
        rw [Option.bind_eq_none_iff]
        intro j hj
        by_contra hne
        have hreport := (ofReport?_isSome_iff j).mpr (Option.ne_none_iff_exists'.mp hne)
        exact h j ⟨out, err, rfl, hj, hreport⟩
      rw [verdict, hnone]

/-- What the verdict `w` on what running the checker came to rests on. -/
structure Judges (o : Outcome) (w : Verdict) : Prop where
  /-- A diagram is accepted if and only if the checker says so. -/
  valid_iff : w.valid = true ↔ Says o "valid" (.bool true)
  /-- A rejection has a message that can be shown. -/
  message : w.valid = false → ∃ m, w.message = some m ∧ Verdict.IsUsable m
  /-- The line is the natural number that the checker says. -/
  line_iff : ∀ n, w.line = some n ↔ Says o "line" (.nat n) ∧ n < 2 ^ 32
  /-- A number of more than 32 bits is no line. -/
  line_none : ∀ n, Says o "line" (.nat n) → 2 ^ 32 ≤ n → w.line = none
  /-- What was expected are the texts in the list that the checker gives, in their order. -/
  expected_iff : ∀ es, w.expected = some es ↔ ∃ items, Says o "expected" (.array items) ∧
    es.map Json.text = items.filter fun item => item.text?.isSome

theorem map_text_filterMap (items : List Json) :
    (items.filterMap Json.text?).map Json.text = items.filter fun item => item.text?.isSome := by
  induction items with
  | nil => rfl
  | cons item items ih =>
    cases hitem : item.text? with
    | none => simpa [hitem] using ih
    | some s =>
      have htext := Json.text?_eq_some_iff.mp hitem
      subst htext
      simpa [hitem] using ih

theorem filterMap_text?_eq_iff {items : List Json} {es : List String} :
    items.filterMap Json.text? = es ↔
      es.map Json.text = items.filter fun item => item.text?.isSome := by
  rw [← map_text_filterMap]
  have hinj : Function.Injective Json.text := by
    intro a b h
    simpa [Json.text] using h
  rw [hinj.list_map.eq_iff]
  exact eq_comm

theorem judges_of_reports {o : Outcome} {j : Json} (h : Reports o j) : Judges o (verdict o) where
  valid_iff := by
    rw [h.says_iff]
    exact h.conveys.valid_iff
  message := by
    intro hvalid
    obtain ⟨said, -, hmessage⟩ := h.conveys.message
    rw [hvalid] at hmessage
    exact ⟨_, hmessage, Verdict.isUsable_normalMessage said⟩
  line_iff := by
    intro n
    rw [h.says_iff]
    exact h.conveys.line_iff h.isPlain n
  line_none := by
    intro n hn hge
    rw [h.says_iff] at hn
    exact h.conveys.line_none h.isPlain hn hge
  expected_iff := by
    intro es
    simp only [h.says_iff, ← filterMap_text?_eq_iff]
    exact h.conveys.expected_iff es

theorem judges_of_not_reports {o : Outcome} (h : ∀ j, ¬ Reports o j) : Judges o (verdict o) := by
  obtain ⟨reason, hreason⟩ := verdict_of_not_reports h
  have hnothing : ∀ name v, ¬ Says o name v := by
    rintro name v ⟨j, hj, -⟩
    exact h j hj
  rw [hreason]
  exact {
    valid_iff := by simp [hnothing, Verdict.rejected]
    message := fun _ => ⟨_, rfl, Verdict.isUsable_normalMessage _⟩
    line_iff := by simp [hnothing, Verdict.rejected]
    line_none := fun _ _ _ => rfl
    expected_iff := by simp [hnothing, Verdict.rejected] }

end Checker

/-- **What the verdict on a diagram rests on**: the checker is run once on the diagram, and whatever
that comes to, the verdict accepts on the strength of a report only, rejects with a message that can
be shown, and passes on the line and the expected texts as they were reported. -/
theorem Settings.check_judges (s : Settings) (programs : Programs) (diagram : String)
    (services : Services) : ∃ w, (s.team programs).check diagram services = (.ok w, services) ∧
      Checker.Judges (programs s.checkerProgram s.checkerArgs diagram) w := by
  refine ⟨_, rfl, ?_⟩
  by_cases h : ∃ j, Checker.Reports (programs s.checkerProgram s.checkerArgs diagram) j
  · obtain ⟨j, hj⟩ := h
    exact Checker.judges_of_reports hj
  · exact Checker.judges_of_not_reports (not_exists.mp h)

/-- A report may be written as an array, and details of other kinds are passed over. -/
example :
    let report := "[false, 7, 4294967296, null, [\"SEMI\", 3, \"NEWLINE\"]]"
    Checker.verdict (.ended true (Utf8.encode report) []) =
      ⟨false, some Verdict.unexplained, none, none, some ["SEMI", "NEWLINE"]⟩ := by
  decide +kernel

end ArchDiagram
