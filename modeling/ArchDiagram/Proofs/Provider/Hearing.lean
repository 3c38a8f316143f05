import ArchDiagram.Proofs.Provider.Report

/-!
# What is heard of a text

A payload carries an increment, or it reports a failure, or it is passed over.  Which of these it
does is said by the members of its JSON value (`CarriesText`, `Fails`, `IsMute`), and what is heard
of a whole body are its increments up to the first failure (`Hears`).  The reader goes by the events
that it decodes from the payloads, so all that has to be shown is that an event carries, or reports,
what its payload does (`carriesText_iff`, `fails_iff`).

* `Hears`: what is heard of some payloads.
* `hears_iff`: the events of payloads tell what is heard of these.
* `textStream_conveys`: **the text of an answer is what is heard of the payloads of its body**.
-/

namespace ArchDiagram.Provider

/-! ## What a payload tells -/

/-- A payload describes an event of the type `kind`: its value has this type, and its fields are
well-formed. -/
structure Describes (payload kind : String) (j : Json) : Prop where
  parsed : Json.ofText? payload = some j
  kind : HasKind kind j
  record : j.IsRecord eventFields

/-- The field `name` of an event is the text `t`. -/
def Gives (j : Json) (name t : String) : Prop :=
  j.HasField ["type", "delta", "message", "refusal", "response"] name (.text t)

/-- The error of the response that an event is about has the message `t`. -/
def GivesError (j : Json) (t : String) : Prop :=
  ∃ response,
    j.HasField ["type", "delta", "message", "refusal", "response"] "response" response ∧
      ∃ error, response.HasField ["error"] "error" error ∧
        error.HasField ["message", "code"] "message" (.text t)

/-- A text that is given, or `default` if none is. -/
def Worded (given : String → Prop) (default t : String) : Prop :=
  given t ∨ (∀ s, ¬ given s) ∧ t = default

/-- A payload carries an increment of the text. -/
def CarriesText (payload s : String) : Prop :=
  s ≠ "" ∧ ∃ j, Describes payload "response.output_text.delta" j ∧ Gives j "delta" s

/-- A payload reports that the text has failed. -/
inductive Fails (payload : String) : ProviderError → Prop
  | refused {j : Json} {t : String} : Describes payload "response.refusal.done" j →
      Worded (Gives j "refusal") "request was refused" t → Fails payload (.refused t none)
  | error {j : Json} {t : String} : Describes payload "error" j →
      Worded (fun s => s ≠ "" ∧ Gives j "message" s) "OpenAI stream failed." t →
      Fails payload (.stream t)
  | failed {j : Json} {t : String} : Describes payload "response.failed" j →
      Worded (GivesError j) "OpenAI stream failed." t → Fails payload (.stream t)

/-- A payload that is passed over. -/
inductive IsMute (payload : String) : Prop
  | done : payload = "[DONE]" → IsMute payload
  | unparsable : (∀ j, Json.ofText? payload = some j → ¬ j.IsRecord eventFields) → IsMute payload
  /-- It is of none of the types that tell something. -/
  | other : (∀ j, Json.ofText? payload = some j → ∀ kind ∈
      ["response.output_text.delta", "response.refusal.done", "error", "response.failed"],
      ¬ HasKind kind j) → IsMute payload

/-- What is heard of some payloads: the increments that they carry, in order, up to the first one
that reports a failure, and this failure. -/
inductive Hears : List String → List String → Option ProviderError → Prop
  | nil : Hears [] [] none
  | carries {p s : String} {ps ss : List String} {f : Option ProviderError} : CarriesText p s →
      Hears ps ss f → Hears (p :: ps) (s :: ss) f
  | fails {p : String} {ps : List String} {e : ProviderError} : Fails p e →
      Hears (p :: ps) [] (some e)
  | passes {p : String} {ps ss : List String} {f : Option ProviderError} :
      (∀ s, ¬ CarriesText p s) → (∀ e, ¬ Fails p e) → Hears ps ss f → Hears (p :: ps) ss f

/-! ## What its event tells -/

theorem worded_iff {given : String → Prop} {x : Option String} (h : ∀ t, given t ↔ x = some t)
    (default t : String) : Worded given default t ↔ x.getD default = t := by
  simp only [Worded, h]
  cases x with
  | none => simp [eq_comm]
  | some s => simp

theorem ApiError.message_iff {j : Json} {e : ApiError} (h : ofJson? j = some e) (t : String) :
    j.HasField ["message", "code"] "message" (.text t) ↔ e.message = some t := by
  rw [ofJson?, Option.bind_eq_bind, Option.bind_eq_some_iff] at h
  obtain ⟨ss, hss, h⟩ := h
  split at h
  · simp only [Option.bind_eq_bind, Option.bind_eq_some_iff, Option.pure_def,
      Option.some.injEq] at h
    obtain ⟨a, ha, b, -, rfl⟩ := h
    exact Json.hasField_text_iff (by simp) hss (by simp) ha t
  · cases h

theorem errorField?_message_iff {j : Json} {x : Option ApiError} (h : errorField? j = some x)
    (t : String) : (∃ error, j.HasField ["error"] "error" error ∧
      error.HasField ["message", "code"] "message" (.text t)) ↔
        ∃ e, x = some e ∧ e.message = some t := by
  rw [errorField?, Option.bind_eq_bind, Option.bind_eq_some_iff] at h
  obtain ⟨ss, hss, h⟩ := h
  split at h
  · rename_i s
    have hplace : ∀ v, j.HasField ["error"] "error" v ↔ s = .given v :=
      Json.hasField_iff (by simp) hss (by simp)
    simp only [hplace]
    exact Slot.exists_given_iff h id fun v e he => ApiError.message_iff he t
  · cases h

namespace StreamEvent

/-- What has been read of an event is what its fields give. -/
structure IsOf (e : StreamEvent) (j : Json) : Prop where
  delta : ∀ t, Gives j "delta" t ↔ e.delta = some t
  message : ∀ t, Gives j "message" t ↔ e.message = some t
  refusal : ∀ t, Gives j "refusal" t ↔ e.refusal = some t
  error : ∀ t, GivesError j t ↔ e.error.bind (·.message) = some t

theorem isOf_of_ofJson? {j : Json} {e : StreamEvent} (h : ofJson? j = some e) : e.IsOf j := by
  rw [ofJson?, Option.bind_eq_bind, Option.bind_eq_some_iff] at h
  obtain ⟨ss, hss, h⟩ := h
  split at h
  · rename_i t d m f r
    simp only [Option.bind_eq_bind, Option.bind_eq_some_iff, Option.pure_def,
      Option.some.injEq] at h
    obtain ⟨k, -, a, ha, b, hb, c, hc, x, hx, rfl⟩ := h
    refine ⟨Json.hasField_text_iff (by simp) hss (by simp) ha,
      Json.hasField_text_iff (by simp) hss (by simp) hb,
      Json.hasField_text_iff (by simp) hss (by simp) hc, fun t => ?_⟩
    have hplace : ∀ v, j.HasField ["type", "delta", "message", "refusal", "response"] "response" v
        ↔ r = .given v := Json.hasField_iff (by simp) hss (by simp)
    have hread := fun v y (hy : errorField? v = some y) => errorField?_message_iff hy t
    simp only [GivesError, hplace]
    rw [Slot.exists_given_iff hx (by simp [Json.HasField]) hread]
    rcases x with _ | _ | e <;> simp
  · cases h

end StreamEvent

theorem Describes.event {payload kind : String} {j : Json} (h : Describes payload kind j) :
    ∃ e, StreamEvent.ofPayload? payload = some e ∧ e.kind = kind ∧ e.IsOf j := by
  obtain ⟨e, he, hkind⟩ := (StreamEvent.ofJson?_iff j kind).mp ⟨h.kind, h.record⟩
  exact ⟨e, StreamEvent.ofPayload?_eq_some_iff.mpr ⟨j, h.parsed, he⟩, hkind,
    StreamEvent.isOf_of_ofJson? he⟩

theorem exists_describes {payload : String} {e : StreamEvent}
    (h : StreamEvent.ofPayload? payload = some e) : ∃ j, Describes payload e.kind j ∧ e.IsOf j := by
  obtain ⟨j, hj, he⟩ := StreamEvent.ofPayload?_eq_some_iff.mp h
  obtain ⟨hkind, hrecord⟩ := (StreamEvent.ofJson?_iff j e.kind).mpr ⟨e, he, rfl⟩
  exact ⟨j, ⟨hj, hkind, hrecord⟩, StreamEvent.isOf_of_ofJson? he⟩

/-- **A payload carries the increment of its event.** -/
theorem carriesText_iff {payload s : String} : CarriesText payload s ↔
    ∃ e, StreamEvent.ofPayload? payload = some e ∧ e.increment? = some s := by
  constructor
  · intro h
    obtain ⟨hs, j, hj, hdelta⟩ := h
    obtain ⟨e, he, hkind, hof⟩ := hj.event
    refine ⟨e, he, ?_⟩
    rw [StreamEvent.increment?, if_pos hkind, (hof.delta s).mp hdelta]
    simp [hs]
  · intro h
    obtain ⟨e, he, hs⟩ := h
    obtain ⟨j, hj, hof⟩ := exists_describes he
    rw [StreamEvent.increment?] at hs
    split at hs
    · rename_i hkind
      rw [hkind] at hj
      rw [Option.filter_eq_some_iff] at hs
      exact ⟨by simpa using hs.2, j, hj, (hof.delta s).mpr hs.1⟩
    · cases hs

/-- **A payload reports the failure that its event reports.** -/
theorem fails_iff {payload : String} {f : ProviderError} : Fails payload f ↔
    ∃ e, StreamEvent.ofPayload? payload = some e ∧ e.failure? = some f := by
  have hmessage : ∀ {e : StreamEvent} {j : Json}, e.IsOf j → ∀ t,
      (t ≠ "" ∧ Gives j "message" t) ↔ e.message.filter (· ≠ "") = some t := by
    intro e j hof t
    rw [hof.message, Option.filter_eq_some_iff, and_comm]
    simp
  constructor
  · intro h
    cases h with
    | refused hj ht =>
      obtain ⟨e, he, hkind, hof⟩ := hj.event
      rw [worded_iff hof.refusal] at ht
      exact ⟨e, he, by simp [StreamEvent.failure?, hkind, wasRefused, ht]⟩
    | error hj ht =>
      obtain ⟨e, he, hkind, hof⟩ := hj.event
      rw [worded_iff (hmessage hof)] at ht
      refine ⟨e, he, ?_⟩
      rw [← ht]
      simp [StreamEvent.failure?, hkind, streamFailed]
    | failed hj ht =>
      obtain ⟨e, he, hkind, hof⟩ := hj.event
      rw [worded_iff hof.error] at ht
      exact ⟨e, he, by simp [StreamEvent.failure?, hkind, streamFailed, ht]⟩
  · intro h
    obtain ⟨e, he, hf⟩ := h
    obtain ⟨j, hj, hof⟩ := exists_describes he
    unfold StreamEvent.failure? at hf
    split at hf
    · rename_i hkind
      rw [hkind] at hj
      cases hf
      exact .refused hj ((worded_iff hof.refusal _ _).mpr rfl)
    split at hf
    · rename_i hkind
      rw [hkind] at hj
      cases hf
      exact .error hj ((worded_iff (hmessage hof) _ _).mpr rfl)
    split at hf
    · rename_i hkind
      rw [hkind] at hj
      cases hf
      exact .failed hj ((worded_iff hof.error _ _).mpr rfl)
    · cases hf

/-! ## What their events tell -/

theorem StreamEvent.failure?_of_increment? {e : StreamEvent} {s : String}
    (h : e.increment? = some s) : e.failure? = none := by
  rw [increment?] at h
  split at h
  · rename_i hkind
    simp [failure?, hkind]
  · cases h

/-- A payload tells nothing if and only if it has no event, or one that tells nothing. -/
theorem tells_nothing_iff {payload : String} :
    ((∀ s, ¬ CarriesText payload s) ∧ ∀ f, ¬ Fails payload f) ↔
      ∀ e, StreamEvent.ofPayload? payload = some e → e.increment? = none ∧ e.failure? = none := by
  constructor
  · intro h e he
    constructor
    · exact Option.eq_none_iff_forall_ne_some.mpr fun s hs =>
        h.1 s (carriesText_iff.mpr ⟨e, he, hs⟩)
    · exact Option.eq_none_iff_forall_ne_some.mpr fun f hf =>
        h.2 f (fails_iff.mpr ⟨e, he, hf⟩)
  · intro h
    refine ⟨fun s hs => ?_, fun f hf => ?_⟩
    · obtain ⟨e, he, hs⟩ := carriesText_iff.mp hs
      rw [(h e he).1] at hs
      cases hs
    · obtain ⟨e, he, hf⟩ := fails_iff.mp hf
      rw [(h e he).2] at hf
      cases hf

/-- **What is heard of some payloads is what their events tell.** -/
theorem hears_iff (ps ss : List String) (f : Option ProviderError) : Hears ps ss f ↔
    ss = StreamEvent.increments (eventsOf ps) ∧ f = StreamEvent.firstFailure? (eventsOf ps) := by
  unfold StreamEvent.increments StreamEvent.firstFailure?
  constructor
  · intro h
    induction h with
    | nil => exact ⟨rfl, rfl⟩
    | carries hp _ ih =>
      obtain ⟨e, he, hs⟩ := carriesText_iff.mp hp
      have hf := StreamEvent.failure?_of_increment? hs
      obtain ⟨rfl, rfl⟩ := ih
      simp [eventsOf, he, hf, hs]
    | fails hp =>
      obtain ⟨e, he, hf⟩ := fails_iff.mp hp
      simp [eventsOf, he, hf]
    | @passes p ps ss f hp hp' _ ih =>
      obtain ⟨rfl, rfl⟩ := ih
      have hnothing := tells_nothing_iff.mp ⟨hp, hp'⟩
      cases he : StreamEvent.ofPayload? p with
      | none => simp [eventsOf, he]
      | some e => simp [eventsOf, he, hnothing e he]
  · intro h
    obtain ⟨rfl, rfl⟩ := h
    induction ps with
    | nil => exact .nil
    | cons p ps ih =>
      by_cases hnothing : (∀ s, ¬ CarriesText p s) ∧ ∀ f, ¬ Fails p f
      · have hnone := tells_nothing_iff.mp hnothing
        cases he : StreamEvent.ofPayload? p with
        | none => simpa [eventsOf, he] using Hears.passes hnothing.1 hnothing.2 ih
        | some e =>
          simpa [eventsOf, he, hnone e he] using Hears.passes hnothing.1 hnothing.2 ih
      · rw [tells_nothing_iff] at hnothing
        obtain ⟨e, he, hsome⟩ : ∃ e, StreamEvent.ofPayload? p = some e ∧
            ¬ (e.increment? = none ∧ e.failure? = none) := by simpa using hnothing
        cases hf : e.failure? with
        | some f =>
          have hfails : Fails p f := fails_iff.mpr ⟨e, he, hf⟩
          simpa [eventsOf, he, hf] using Hears.fails hfails
        | none =>
          cases hs : e.increment? with
          | none => exact absurd ⟨hs, hf⟩ hsome
          | some s =>
            have hcarries : CarriesText p s := carriesText_iff.mpr ⟨e, he, hs⟩
            simpa [eventsOf, he, hf, hs] using Hears.carries hcarries ih

/-- A payload that is passed over describes no event of a type that tells something. -/
theorem IsMute.not_describes {payload kind : String} {j : Json} (h : IsMute payload)
    (hkind : kind ∈
      ["response.output_text.delta", "response.refusal.done", "error", "response.failed"]) :
    ¬ Describes payload kind j := by
  intro hj
  cases h with
  | done hdone =>
    have hparsed := hj.parsed
    rw [hdone, ofText?_done] at hparsed
    cases hparsed
  | unparsable h => exact h j hj.parsed hj.record
  | other h => exact h j hj.parsed kind hkind hj.kind

theorem IsMute.tells_nothing {payload : String} (h : IsMute payload) :
    (∀ s, ¬ CarriesText payload s) ∧ ∀ f, ¬ Fails payload f := by
  constructor
  · intro s hs
    obtain ⟨-, j, hj, -⟩ := hs
    exact h.not_describes (by simp) hj
  · intro f hf
    cases hf with
    | refused hj _ => exact h.not_describes (by simp) hj
    | error hj _ => exact h.not_describes (by simp) hj
    | failed hj _ => exact h.not_describes (by simp) hj

theorem IsMute.signal_eq {payload : String} (h : IsMute payload) :
    Signal.ofPayload? payload = none := by
  have hnothing := tells_nothing_iff.mp h.tells_nothing
  rw [Signal.ofPayload?]
  cases he : StreamEvent.ofPayload? payload with
  | none => rfl
  | some e =>
    obtain ⟨hs, hf⟩ := hnothing e he
    rw [Option.bind_some, e.signal?_eq, hs, hf]
    rfl

/-! ## The text of an answer -/

/-- How a text ends whose payloads report this failure or none. -/
inductive EndsAs (wait : Duration) (r : Web.Response) : Option ProviderError → Ending → Prop
  | failed {e : ProviderError} : EndsAs wait r (some e) (.failed e)
  | timedOut : r.fault = some .timedOut → EndsAs wait r none (.failed (.timeout wait none))
  | broken {f : Web.Fault} : r.fault = some f → f ≠ .timedOut →
      EndsAs wait r none (.failed (.transport f))
  | finished : r.fault = none → EndsAs wait r none .finished

/-- What the text of an answer is, in terms of the body of the answer. -/
structure Conveys (wait : Duration) (r : Web.Response) (x : TextStream) : Prop where
  /-- Its increments are what is heard of the payloads of the body and nothing else, and it ends
  with the failure that is heard, or else as the body does. -/
  heard : ∃ f, (∀ ss g, Hears (frames r) ss g ↔ ss = x.increments ∧ g = f) ∧
    EndsAs wait r f x.ending
  /-- After a failure nothing counts: neither what follows it in the body nor how the body ends. -/
  settled : (∃ payload ∈ Sse.completed r.pieces.flatten, ∃ e, Fails payload e) →
    ∀ wait' r', r.pieces.flatten <+: r'.pieces.flatten → textStream wait' r' = x
  /-- A payload that is passed over may as well be left out, wherever it stands. -/
  mute : ∀ before payload after r', frames r = before ++ payload :: after → IsMute payload →
    frames r' = before ++ after → r'.fault = r.fault → textStream wait r' = x
  /-- It does not count how the body is cut into pieces. -/
  cut : ∀ r', r'.pieces.flatten = r.pieces.flatten → r'.fault = r.fault → textStream wait r' = x

theorem endsAs_closing (wait : Duration) (r : Web.Response) (f : Option ProviderError) :
    EndsAs wait r f (f.elim (closing wait r.fault) .failed) := by
  cases f with
  | some e => exact .failed
  | none =>
    cases hr : r.fault with
    | none => exact .finished hr
    | some g =>
      by_cases hg : g = .timedOut
      · subst hg
        exact .timedOut hr
      · have herror : transportError wait g = .transport g := by
          cases g with
          | timedOut => exact absurd rfl hg
          | _ => rfl
        show EndsAs wait r none (.failed (transportError wait g))
        rw [herror]
        exact .broken hr hg

/-- **The text of an answer is what is heard of the payloads of its body**, up to the first
failure. -/
theorem textStream_conveys (wait : Duration) (r : Web.Response) :
    Conveys wait r (textStream wait r) := by
  constructor
  case heard =>
    refine ⟨StreamEvent.firstFailure? (eventsOf (frames r)), fun ss g => ?_, ?_⟩
    · rw [hears_iff, textStream_eq]
    · rw [textStream_eq]
      exact endsAs_closing wait r _
  case settled =>
    intro h wait' r' hr
    obtain ⟨payload, hmem, e, he⟩ := h
    obtain ⟨event, hevent, hf⟩ := fails_iff.mp he
    have hsome : StreamEvent.firstFailure? (eventsOf (Sse.completed r.pieces.flatten)) ≠ none := by
      intro hnone
      have hmem' : event ∈ eventsOf (Sse.completed r.pieces.flatten) :=
        List.mem_filterMap.mpr ⟨payload, hmem, hevent⟩
      rw [List.findSome?_eq_none_iff.mp hnone event hmem'] at hf
      cases hf
    obtain ⟨f, hf⟩ := Option.ne_none_iff_exists'.mp hsome
    rw [textStream_of_completed hf wait' hr, textStream_of_completed hf wait List.prefix_rfl]
  case mute =>
    intro before payload after r' hr hmute hr' hfault
    refine textStream_congr wait ?_ hfault
    rw [hr, hr', List.filterMap_append, List.filterMap_append,
      List.filterMap_cons_none hmute.signal_eq]
  case cut =>
    intro r' hr hfault
    refine textStream_congr wait ?_ hfault
    rw [frames, frames, hr, hfault]

/-- The mark of the end is passed over, and what stands behind a failure does not count. -/
theorem textStream_conveys_failure :
    let first := Json.record [("type", .text "response.output_text.delta"), ("delta", .text "a")]
    let report := Json.record [("type", .text "error"), ("message", .text "boom")]
    let later := Json.record [("type", .text "response.output_text.delta"), ("delta", .text "b")]
    let body := "data: " ++ first.render ++ "\n\ndata: [DONE]\n\ndata: " ++ report.render ++
      "\n\ndata: " ++ later.render ++ "\n\n"
    let r : Web.Response := ⟨200, [], [Utf8.encode body], none⟩
    (textStream ⟨0⟩ r).increments = ["a"] ∧
      (textStream ⟨0⟩ r).ending = .failed (.stream "boom") ∧ Conveys ⟨0⟩ r (textStream ⟨0⟩ r) := by
  intro first report later body r
  have hevents : StreamEvent.increments (eventsOf (frames r)) = ["a"] ∧
      StreamEvent.firstFailure? (eventsOf (frames r)) = some (.stream "boom") := by
    decide +kernel
  have htext : textStream ⟨0⟩ r = ⟨["a"], .failed (.stream "boom")⟩ := by
    rw [textStream_eq, hevents.1, hevents.2]
    rfl
  exact ⟨congrArg TextStream.increments htext, congrArg TextStream.ending htext,
    textStream_conveys ⟨0⟩ r⟩

end ArchDiagram.Provider
