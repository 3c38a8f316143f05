import ArchDiagram.Proofs.Web.Sse
import ArchDiagram.Provider.Stream

/-!
# What a stream of events tells

A text is read in turns from a queue, a decoder and a body.  What is still ahead of it, the signals
that wait and those that the decoder will put out for the rest of the body (`Intake.ahead`), loses
its first signal when an increment is handed on, and stays the same when more of the body is read.
So what is handed on in the end are the signals of the whole body up to the first failure, and these
do not depend on where the pieces of the body end.

* `Turns.accounts`: what a turn does to the signals that are ahead.
* `Intake.collect_eq`: what a whole reading hands on.
* `textStream_eq`: **the text of an answer in terms of the events of its body**.
* `textStream_of_completed`: a failure settles the text, whatever follows it.
-/

namespace ArchDiagram.Provider

/-! ## Events -/

namespace StreamEvent

/-- The failure that an event reports, none if it reports none. -/
def failure? (e : StreamEvent) : Option ProviderError :=
  if e.kind = "response.refusal.done" then some (.refused (e.refusal.getD wasRefused) none)
  else if e.kind = "error" then
    some (.stream ((e.message.filter (· ≠ "")).getD streamFailed))
  else if e.kind = "response.failed" then
    some (.stream ((e.error.bind (·.message)).getD streamFailed))
  else none

def increment? (e : StreamEvent) : Option String :=
  if e.kind = "response.output_text.delta" then e.delta.filter (· ≠ "") else none

theorem signal?_eq (e : StreamEvent) :
    e.signal? = (e.failure?.map Signal.failure).or (e.increment?.map Signal.increment) := by
  unfold signal? failure? increment?
  split
  · rename_i h
    simp [h]
  · rename_i h
    simp [h]
  · rename_i h
    simp [h]
  · rename_i h
    simp [h]
  · simp_all

/-- The increments of events before the first failure. -/
def increments (es : List StreamEvent) : List String :=
  (es.takeWhile (·.failure?.isNone)).filterMap (·.increment?)

def firstFailure? (es : List StreamEvent) : Option ProviderError :=
  es.findSome? (·.failure?)

end StreamEvent

/-! ## Signals -/

/-- What is handed on of some signals; `close` is the end where none of them is a failure. -/
def heard (close : Ending) : List Signal → TextStream
  | [] => ⟨[], close⟩
  | .increment s :: more => ⟨s :: (heard close more).increments, (heard close more).ending⟩
  | .failure e :: _ => ⟨[], .failed e⟩

theorem heard_filterMap (close : Ending) (es : List StreamEvent) :
    heard close (es.filterMap (·.signal?)) =
      ⟨StreamEvent.increments es, (StreamEvent.firstFailure? es).elim close .failed⟩ := by
  induction es with
  | nil => rfl
  | cons e es ih =>
    unfold StreamEvent.increments StreamEvent.firstFailure? at ih ⊢
    have hsignal := e.signal?_eq
    cases hf : e.failure? with
    | some f =>
      rw [hf] at hsignal
      rw [List.filterMap_cons_some hsignal]
      simp [heard, hf]
    | none =>
      rw [hf] at hsignal
      cases hs : e.increment? with
      | none =>
        rw [hs] at hsignal
        rw [List.filterMap_cons_none hsignal, ih]
        simp [hf, hs]
      | some s =>
        rw [hs] at hsignal
        rw [List.filterMap_cons_some hsignal, heard, ih]
        simp [hf, hs]

/-! ## Turns -/

/-- The end of a text that reports no failure, by what breaks its body off. -/
def closing (wait : Duration) : Option Web.Fault → Ending
  | none => .finished
  | some f => .failed (transportError wait f)

namespace Intake

/-- The payloads that are still to come. -/
def coming (i : Intake) : List String :=
  if i.finished then []
  else
    (i.decoder.pushAll i.pieces).1.flatten ++
      if i.fault.isNone then (i.decoder.pushAll i.pieces).2.finish.1 else []

/-- The signals that are still to be handed on. -/
def ahead (i : Intake) : List Signal :=
  i.pending ++ i.coming.filterMap Signal.ofPayload?

/-- Only a whole body is read to its end. -/
def Sound (i : Intake) : Prop :=
  i.finished = true → i.fault = none

variable {wait : Duration} {i : Intake}

/-- What a turn does to the signals that are ahead. -/
def Accounts (wait : Duration) (i : Intake) : Turn → Prop
  | .yields s j => j.Sound ∧ j.fault = i.fault ∧ i.ahead = .increment s :: j.ahead
  | .reads j => j.Sound ∧ j.fault = i.fault ∧ i.ahead = j.ahead
  | .ends e => heard (closing wait i.fault) i.ahead = ⟨[], e⟩

/-- **In a turn no signal is lost and none is repeated.** -/
theorem Turns.accounts {t : Turn} (h : Turns wait i t) (hi : i.Sound) : Accounts wait i t := by
  cases h with
  | hands => exact ⟨hi, rfl, rfl⟩
  | fails => rfl
  | finishes =>
    have hfault := hi rfl
    dsimp only at hfault
    subst hfault
    rfl
  | @pushes p ps f d =>
    refine ⟨nofun, rfl, ?_⟩
    have hcoming : coming ⟨p :: ps, f, d, [], false⟩ =
        (d.push p).1 ++ coming ⟨ps, f, (d.push p).2, [], false⟩ := by
      simp [coming, Sse.Decoder.pushAll]
    rw [ahead, hcoming, List.filterMap_append]
    rfl
  | breaks => rfl
  | closes =>
    refine ⟨fun _ => rfl, rfl, ?_⟩
    simp [ahead, coming, take, Sse.Decoder.pushAll]

/-- **A whole reading hands on what is ahead of it**, up to the first failure. -/
theorem collect_eq (done : List String) (hi : i.Sound) : i.collect wait done =
    ⟨done.reverse ++ (heard (closing wait i.fault) i.ahead).increments,
      (heard (closing wait i.fault) i.ahead).ending⟩ := by
  -- an increment is the first of the signals ahead, reading leaves them as they are, and an end is
  -- what is heard of those that are left
  induction done, i using collect.induct wait with
  | case1 done i s j hturn ih =>
    have haccounts := (i.turns_turn wait).accounts hi
    rw [hturn] at haccounts
    obtain ⟨hj, hfault, hahead⟩ := haccounts
    rw [collect, hturn, hahead, ← hfault]
    simpa [heard] using ih hj
  | case2 done i j hturn ih =>
    have haccounts := (i.turns_turn wait).accounts hi
    rw [hturn] at haccounts
    obtain ⟨hj, hfault, hahead⟩ := haccounts
    rw [collect, hturn, hahead, ← hfault]
    exact ih hj
  | case3 done i e hturn =>
    have haccounts : heard (closing wait i.fault) i.ahead = ⟨[], e⟩ := by
      have h := (i.turns_turn wait).accounts hi
      rwa [hturn] at h
    rw [collect, hturn, haccounts]
    simp

end Intake

/-! ## Bodies -/

/-- The payloads of the body of an answer.  Where the body breaks off, a last event without its
empty line does not count. -/
def frames (r : Web.Response) : List String :=
  if r.fault.isNone then Sse.payloads r.pieces.flatten else Sse.completed r.pieces.flatten

def eventsOf (payloads : List String) : List StreamEvent :=
  payloads.filterMap StreamEvent.ofPayload?

/-- All that is ahead of a text that has not been read are the payloads of its body. -/
theorem Intake.coming_ofResponse (r : Web.Response) : (ofResponse r).coming = frames r := by
  have hholds := Sse.Decoder.holds_pushAll r.pieces
  unfold coming frames
  rw [if_neg (by simp [ofResponse])]
  cases hfault : r.fault with
  | none =>
    rw [← hholds.eq_payloads]
    simp [ofResponse, hfault]
  | some f =>
    rw [← hholds.eq_completed]
    simp [ofResponse, hfault]

theorem filterMap_ofPayload? (payloads : List String) :
    payloads.filterMap Signal.ofPayload? = (eventsOf payloads).filterMap (·.signal?) :=
  List.filterMap_filterMap.symm

/-- **The text of an answer is what the events of its body tell**, up to the first failure. -/
theorem textStream_eq (wait : Duration) (r : Web.Response) : textStream wait r =
    ⟨StreamEvent.increments (eventsOf (frames r)),
      (StreamEvent.firstFailure? (eventsOf (frames r))).elim (closing wait r.fault) .failed⟩ := by
  have hsound : (Intake.ofResponse r).Sound := nofun
  have hahead : (Intake.ofResponse r).ahead = (eventsOf (frames r)).filterMap (·.signal?) := by
    rw [Intake.ahead, Intake.coming_ofResponse, filterMap_ofPayload?]
    rfl
  have hfault : (Intake.ofResponse r).fault = r.fault := rfl
  rw [textStream, Intake.collect_eq [] hsound, hahead, hfault, heard_filterMap]
  rfl

/-- Two bodies whose payloads mean the same, and that break off alike, have the same text. -/
theorem textStream_congr (wait : Duration) {r r' : Web.Response}
    (h : (frames r').filterMap Signal.ofPayload? = (frames r).filterMap Signal.ofPayload?)
    (hfault : r'.fault = r.fault) : textStream wait r' = textStream wait r := by
  rw [filterMap_ofPayload?, filterMap_ofPayload?] at h
  have hheard := congrArg (heard (closing wait r.fault)) h
  rw [heard_filterMap, heard_filterMap] at hheard
  rw [textStream_eq, textStream_eq, hfault]
  exact hheard

/-! ## What follows a failure -/

namespace StreamEvent

theorem firstFailure?_append {es : List StreamEvent} {f : ProviderError}
    (h : firstFailure? es = some f) (more : List StreamEvent) :
    firstFailure? (es ++ more) = some f := by
  rw [firstFailure?, List.findSome?_append]
  rw [firstFailure?] at h
  rw [h, Option.some_or]

theorem increments_append {es : List StreamEvent} {f : ProviderError}
    (h : firstFailure? es = some f) (more : List StreamEvent) :
    increments (es ++ more) = increments es := by
  induction es with
  | nil => cases h
  | cons e es ih =>
    unfold increments firstFailure? at *
    cases hf : e.failure? with
    | some g => simp [hf]
    | none =>
      have hrest : es.findSome? (·.failure?) = some f := by simpa [hf] using h
      simp only [List.cons_append, List.takeWhile_cons, hf, Option.isNone_none, if_true,
        List.filterMap_cons]
      rw [ih hrest]

end StreamEvent

theorem completed_isPrefix (body more : List UInt8) :
    Sse.completed body <+: Sse.completed (body ++ more) := by
  have hfirst := Sse.Decoder.holds_pushAll [body]
  rw [List.flatten_singleton] at hfirst
  have hboth := hfirst.push more
  rw [← hfirst.eq_completed, ← hboth.eq_completed]
  exact List.prefix_append _ _

/-- All that a body has completed is among its payloads, at their front. -/
theorem completed_isPrefix_frames (r : Web.Response) :
    Sse.completed r.pieces.flatten <+: frames r := by
  have hholds := Sse.Decoder.holds_pushAll r.pieces
  unfold frames
  split
  · rw [← hholds.eq_completed, ← hholds.eq_payloads]
    exact List.prefix_append _ _
  · exact List.prefix_rfl

/-- A failure in what a body has completed settles the text. -/
theorem textStream_of_completed {body : List UInt8} {f : ProviderError}
    (hf : StreamEvent.firstFailure? (eventsOf (Sse.completed body)) = some f) (wait : Duration)
    {r : Web.Response} (hr : body <+: r.pieces.flatten) : textStream wait r =
      ⟨StreamEvent.increments (eventsOf (Sse.completed body)), .failed f⟩ := by
  obtain ⟨rest, hrest⟩ := hr
  have hbody := completed_isPrefix body rest
  rw [hrest] at hbody
  obtain ⟨later, hlater⟩ := hbody.trans (completed_isPrefix_frames r)
  rw [textStream_eq, ← hlater, eventsOf, List.filterMap_append]
  change StreamEvent.firstFailure? (List.filterMap _ _) = some f at hf
  rw [StreamEvent.increments_append hf, StreamEvent.firstFailure?_append hf]
  rfl

end ArchDiagram.Provider
