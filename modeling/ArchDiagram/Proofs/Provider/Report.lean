import ArchDiagram.Proofs.Event.Wire
import ArchDiagram.Proofs.Json.Record
import ArchDiagram.Proofs.Provider.Stream

/-!
# Failures that a stream reports

A payload reports a failure by its type.  It is read as a record with five fields in one go, though,
so the report is only heard if the other four fields are well-formed too, also those that say
nothing about this type of failure; a payload of which one is not counts as none at all.

* `StreamEvent.ofJson?_iff`: which values describe an event of a given type.
* `Reports`: payloads that report a failure and are heard.
* `textStream_reports`: **a text ends with a failure if and only if its body breaks off or one of
  its payloads reports one and is heard**.
* `textStream_swallows`: a report that is not heard.
-/

namespace ArchDiagram.Provider

/-! ## Records of a stream -/

def errorFields : Json.Fields :=
  [("message", Json.IsText), ("code", Json.IsText)]

def responseFields : Json.Fields :=
  [("error", Json.IsRecord errorFields)]

def eventFields : Json.Fields :=
  [("type", Json.IsText), ("delta", Json.IsText), ("message", Json.IsText),
    ("refusal", Json.IsText), ("response", Json.IsRecord responseFields)]

theorem ApiError.ofJson?_iff (j : Json) :
    j.IsRecord errorFields ↔ ∃ e, ApiError.ofJson? j = some e := by
  rw [Json.isRecord_iff, ofJson?]
  constructor
  · rintro ⟨ss, hss, hall⟩
    match ss, hss, hall with
    | [m, c], hss, .cons hm (.cons hc .nil) =>
      obtain ⟨a, ha⟩ := (Slot.isOptional_iff Json.isText_iff m).mp hm
      obtain ⟨b, hb⟩ := (Slot.isOptional_iff Json.isText_iff c).mp hc
      change j.slots ["message", "code"] = some [m, c] at hss
      rw [hss]
      exact ⟨⟨a, b⟩, by simp [ha, hb]⟩
  · rintro ⟨e, he⟩
    rw [Option.bind_eq_bind, Option.bind_eq_some_iff] at he
    obtain ⟨ss, hss, he⟩ := he
    refine ⟨ss, hss, ?_⟩
    split at he
    · rename_i m c
      simp only [Option.bind_eq_bind, Option.bind_eq_some_iff] at he
      obtain ⟨a, ha, b, hb, -⟩ := he
      have hm := (Slot.isOptional_iff Json.isText_iff m).mpr ⟨a, ha⟩
      have hc := (Slot.isOptional_iff Json.isText_iff c).mpr ⟨b, hb⟩
      exact .cons hm (.cons hc .nil)
    · cases he

theorem errorField?_iff (j : Json) :
    j.IsRecord responseFields ↔ ∃ e, errorField? j = some e := by
  rw [Json.isRecord_iff, errorField?]
  constructor
  · rintro ⟨ss, hss, hall⟩
    match ss, hss, hall with
    | [s], hss, .cons hs .nil =>
      change j.slots ["error"] = some [s] at hss
      rw [hss]
      exact (Slot.isOptional_iff ApiError.ofJson?_iff s).mp hs
  · rintro ⟨e, he⟩
    rw [Option.bind_eq_bind, Option.bind_eq_some_iff] at he
    obtain ⟨ss, hss, he⟩ := he
    refine ⟨ss, hss, ?_⟩
    split at he
    · rename_i s
      exact .cons ((Slot.isOptional_iff ApiError.ofJson?_iff s).mpr ⟨e, he⟩) .nil
    · cases he

/-! ## Events of a type -/

/-- A value whose type is `kind`, be it written as an object or as an array. -/
def HasKind (kind : String) : Json → Prop
  | .object ms => (some "type", Json.text kind) ∈ ms
  | .array vs => vs.head? = some (Json.text kind)
  | _ => False

theorem hasKind_iff {j : Json} {names : List String} {s : Slot} {ss : List Slot}
    (h : j.slots ("type" :: names) = some (s :: ss)) (kind : String) :
    HasKind kind j ↔ s = .given (.text kind) := by
  cases j with
  | object ms =>
    rw [Json.slots] at h
    split at h
    · simp only [List.mapM_cons, Option.bind_eq_bind, Option.bind_eq_some_iff, Option.pure_def,
        Option.some.injEq, List.cons.injEq] at h
      obtain ⟨s', hs, _, _, rfl, _⟩ := h
      exact (Json.slotNamed_eq_given_iff hs _).symm
    · cases h
  | array vs =>
    cases vs with
    | nil =>
      simp only [Json.slots, Json.slotsListed, Option.map_eq_some_iff, List.cons.injEq] at h
      obtain ⟨_, _, rfl, _⟩ := h
      simp [HasKind]
    | cons v vs =>
      simp only [Json.slots, Json.slotsListed, Option.map_eq_some_iff, List.cons.injEq] at h
      obtain ⟨_, _, rfl, _⟩ := h
      simp [HasKind]
  | null | bool _ | number _ | string _ => cases h

/-- **A value describes an event of a type if and only if it has this type and its fields are
well-formed.** -/
theorem StreamEvent.ofJson?_iff (j : Json) (kind : String) :
    HasKind kind j ∧ j.IsRecord eventFields ↔
      ∃ e, StreamEvent.ofJson? j = some e ∧ e.kind = kind := by
  rw [Json.isRecord_iff]
  constructor
  · rintro ⟨hkind, ss, hss, hall⟩
    match ss, hss, hall with
    | [t, d, m, f, r], hss, .cons _ (.cons hd (.cons hm (.cons hf (.cons hr .nil)))) =>
      change j.slots ["type", "delta", "message", "refusal", "response"] = some [t, d, m, f, r]
        at hss
      rw [hasKind_iff hss] at hkind
      obtain ⟨a, ha⟩ := (Slot.isOptional_iff Json.isText_iff d).mp hd
      obtain ⟨b, hb⟩ := (Slot.isOptional_iff Json.isText_iff m).mp hm
      obtain ⟨c, hc⟩ := (Slot.isOptional_iff Json.isText_iff f).mp hf
      obtain ⟨x, hx⟩ := (Slot.isOptional_iff errorField?_iff r).mp hr
      refine ⟨⟨kind, a, b, c, x.join⟩, ?_, rfl⟩
      rw [ofJson?, hss, hkind]
      simp [Slot.required, Json.text?, Json.text, ha, hb, hc, hx]
  · rintro ⟨e, he, hkind⟩
    rw [ofJson?, Option.bind_eq_bind, Option.bind_eq_some_iff] at he
    obtain ⟨ss, hss, he⟩ := he
    split at he
    · rename_i t d m f r
      simp only [Option.bind_eq_bind, Option.bind_eq_some_iff, Option.pure_def,
        Option.some.injEq] at he
      obtain ⟨k, hk, a, ha, b, hb, c, hc, x, hx, rfl⟩ := he
      have ht : t = .given (.text kind) := by
        cases t with
        | given v =>
          rw [← hkind]
          exact congrArg Slot.given (Json.text?_eq_some_iff.mp hk)
        | unnamed => cases hk
        | beyond => cases hk
      refine ⟨(hasKind_iff hss kind).mpr ht, [t, d, m, f, r], hss, ?_⟩
      have htext : t.IsOptional Json.IsText := by
        rw [ht]
        exact Or.inr ⟨kind, rfl⟩
      have hd := (Slot.isOptional_iff Json.isText_iff d).mpr ⟨a, ha⟩
      have hm := (Slot.isOptional_iff Json.isText_iff m).mpr ⟨b, hb⟩
      have hf := (Slot.isOptional_iff Json.isText_iff f).mpr ⟨c, hc⟩
      have hr := (Slot.isOptional_iff errorField?_iff r).mpr ⟨x, hx⟩
      exact .cons htext (.cons hd (.cons hm (.cons hf (.cons hr .nil))))
    · cases he

/-! ## Reports -/

def failureKinds : List String :=
  ["error", "response.failed", "response.refusal.done"]

theorem StreamEvent.failure?_isSome_iff (e : StreamEvent) :
    e.failure?.isSome = true ↔ e.kind ∈ failureKinds := by
  unfold failure? failureKinds
  split
  · rename_i h
    simp [h]
  split
  · rename_i h
    simp [h]
  split
  · rename_i h
    simp [h]
  · simp_all

/-- A payload that reports a failure and is heard: it has the type of a failure, and the fields
that are read of an event are well-formed. -/
def Reports (payload : String) : Prop :=
  ∃ j, Json.ofText? payload = some j ∧ (∃ kind ∈ failureKinds, HasKind kind j) ∧
    j.IsRecord eventFields

theorem ofText?_done : Json.ofText? "[DONE]" = none := by
  decide +kernel

/-- The event of a payload is the one that its value describes. -/
theorem StreamEvent.ofPayload?_eq_some_iff {payload : String} {e : StreamEvent} :
    ofPayload? payload = some e ↔ ∃ j, Json.ofText? payload = some j ∧ ofJson? j = some e := by
  rw [ofPayload?]
  split
  · rename_i hdone
    rw [hdone, ofText?_done]
    simp
  · exact Option.bind_eq_some_iff

/-- The payloads that report a failure and are heard are those of events that report one. -/
theorem reports_iff (payload : String) : Reports payload ↔
    ∃ e, StreamEvent.ofPayload? payload = some e ∧ e.failure?.isSome = true := by
  simp only [StreamEvent.failure?_isSome_iff, StreamEvent.ofPayload?_eq_some_iff]
  constructor
  · rintro ⟨j, hj, ⟨kind, hkind, hj'⟩, hrecord⟩
    obtain ⟨e, he, rfl⟩ := (StreamEvent.ofJson?_iff j kind).mp ⟨hj', hrecord⟩
    exact ⟨e, ⟨j, hj, he⟩, hkind⟩
  · rintro ⟨e, ⟨j, hj, he⟩, hkind⟩
    obtain ⟨hj', hrecord⟩ := (StreamEvent.ofJson?_iff j e.kind).mpr ⟨e, he, rfl⟩
    exact ⟨j, hj, ⟨e.kind, hkind, hj'⟩, hrecord⟩

/-- No event reports a failure if and only if no payload does that is heard. -/
theorem firstFailure?_eq_none_iff (payloads : List String) :
    StreamEvent.firstFailure? (eventsOf payloads) = none ↔
      ∀ payload ∈ payloads, ¬ Reports payload := by
  rw [StreamEvent.firstFailure?, List.findSome?_eq_none_iff]
  constructor
  · intro h payload hp hreports
    obtain ⟨e, he, hfailure⟩ := (reports_iff payload).mp hreports
    have hmem : e ∈ eventsOf payloads := List.mem_filterMap.mpr ⟨payload, hp, he⟩
    rw [h e hmem] at hfailure
    cases hfailure
  · intro h e he
    obtain ⟨payload, hp, hpe⟩ := List.mem_filterMap.mp he
    by_contra hne
    exact h payload hp ((reports_iff payload).mpr ⟨e, hpe, Option.isSome_iff_ne_none.mpr hne⟩)

/-- **Which texts end with a failure**: those whose body breaks off, and those with a payload that
reports a failure and is heard.  All others end in order. -/
theorem textStream_reports (wait : Duration) (r : Web.Response) :
    ((∃ e, (textStream wait r).ending = .failed e) ↔
      r.fault ≠ none ∨ ∃ payload ∈ frames r, Reports payload) ∧
    ((textStream wait r).ending = .finished ↔
      r.fault = none ∧ ∀ payload ∈ frames r, ¬ Reports payload) := by
  rw [textStream_eq, ← firstFailure?_eq_none_iff]
  have hsome : (∃ payload ∈ frames r, Reports payload) ↔
      StreamEvent.firstFailure? (eventsOf (frames r)) ≠ none := by
    rw [Ne, firstFailure?_eq_none_iff]
    simp
  rw [hsome]
  cases StreamEvent.firstFailure? (eventsOf (frames r)) with
  | some e => simp
  | none => cases r.fault <;> simp [closing]

/-- The body of an answer that sends some values, each in a frame of its own. -/
theorem eventsOf_frames {vs : List Json} (hvs : ∀ v ∈ vs, v.IsWritten) {r : Web.Response}
    (hfault : r.fault = none)
    (hr : r.pieces.flatten = (vs.map Json.chars).flatMap Sse.frameOctets) :
    frames r = vs.map Json.render ∧ eventsOf (frames r) = vs.filterMap StreamEvent.ofJson? := by
  have htexts : ∀ cs ∈ vs.map Json.chars, Text.Uncontrolled cs :=
    List.forall_mem_map.mpr fun v hv => (hvs v hv).uncontrolled
  have hframes : frames r = vs.map Json.render := by
    rw [frames, hfault, hr]
    show Sse.payloadsOf _ = _
    rw [(Sse.cut_frames htexts).payloadsOf_eq, Sse.filterMap_payload?_frames htexts, List.map_map]
    exact List.append_nil _
  refine ⟨hframes, ?_⟩
  rw [hframes, eventsOf, List.filterMap_map]
  refine List.filterMap_congr fun v hv => ?_
  have hread := (hvs v hv).ofText?_render
  have hdone : v.render ≠ "[DONE]" := by
    intro h
    rw [h, ofText?_done] at hread
    cases hread
  show StreamEvent.ofPayload? v.render = _
  rw [StreamEvent.ofPayload?, if_neg hdone, hread]
  rfl

/-- A failure whose code is a number is not heard. -/
theorem textStream_swallows :
    let delta := Json.record [("type", .text "response.output_text.delta"),
      ("delta", .text "flowchart TD")]
    let report := Json.record [("type", .text "response.failed"),
      ("response", .record [("error",
        .record [("message", .text "server error"), ("code", .nat 500)])])]
    let body := "data: " ++ delta.render ++ "\n\n" ++ "data: " ++ report.render ++ "\n\n"
    let r : Web.Response := ⟨200, [], [Utf8.encode body], none⟩
    r.isSuccess = true ∧ report.render ∈ frames r ∧
      Json.ofText? report.render = some report ∧ HasKind "response.failed" report ∧
      (textStream ⟨0⟩ r).increments = ["flowchart TD"] ∧ (textStream ⟨0⟩ r).ending = .finished := by
  intro delta report body r
  have hdelta : delta.IsWritten := Json.isWritten_record (by simp [Json.IsWritten.text])
  have hreport : report.IsWritten := by
    refine Json.isWritten_record (List.forall_mem_cons.mpr ⟨.text _, ?_⟩)
    rw [List.forall_mem_singleton]
    refine Json.isWritten_record (List.forall_mem_singleton.mpr ?_)
    exact Json.isWritten_record (by simp [Json.IsWritten.text, Json.isWritten_nat])
  have hvs : ∀ v ∈ [delta, report], v.IsWritten := by
    simp [hdelta, hreport]
  have hbody : r.pieces.flatten = ([delta, report].map Json.chars).flatMap Sse.frameOctets := by
    have hgap : Utf8.octets "\n\n".toList = [10, 10] := by decide
    simp only [r, body, List.flatten_singleton, Utf8.encode_eq_octets, String.toList_append,
      Utf8.octets_append, Json.render, String.toList_ofList, hgap]
    simp only [List.map_cons, List.map_nil, List.flatMap_cons, List.flatMap_nil,
      Sse.frameOctets, Utf8.octets_append, List.append_assoc, List.append_nil]
  obtain ⟨hframes, hevents⟩ := eventsOf_frames hvs rfl hbody
  refine ⟨rfl, ?_, hreport.ofText?_render, List.mem_cons_self, ?_⟩
  · rw [hframes]
    simp
  · rw [textStream_eq, hevents]
    exact ⟨rfl, rfl⟩

end ArchDiagram.Provider
