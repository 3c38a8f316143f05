import ArchDiagram.Event.Wire
import ArchDiagram.Proofs.Json.Reader
import ArchDiagram.Proofs.Web.Sse

/-!
# Events read back

An event is written as a record of texts and small numbers (`IsField`), none of which is called
`status`, so the reader finds the one status and, under it, the fields again.  In the compact text
no control character stands, hence a frame is one line and the empty one after it: a body of frames
is cut into its frames wherever its pieces end, and printed lines are told apart.

* `Event.InRange`: events whose numbers fit into 32 bits.
* `Event.ofText_render`: **the compact text of an event is read as this event**.
* `Sse.cut_frames`: the blocks of a body of frames.
* `Event.frames_readBack`: **events that are sent as frames or printed as lines are read back**.
-/

namespace ArchDiagram.Event

/-- Whether the numbers of attempts in an event fit into 32 bits. -/
def InRange : Event → Prop
  | diagramFixAttempt _ i n _ | diagramFixChunk _ i n | diagramFixValidating _ i n =>
    i < Decimal.twoTo 32 ∧ n < Decimal.twoTo 32
  | _ => True

instance : DecidablePred InRange := fun e => by
  cases e <;> unfold InRange <;> infer_instance

/-! ## One event -/

/-- What stands beside the status in an event: a text or a number under another name. -/
inductive IsField : String × Json → Prop
  | text {name : String} (s : String) : name ≠ "status" → IsField (name, .text s)
  | nat {name : String} {n : Nat} : name ≠ "status" → n < Decimal.twoTo 32 →
      IsField (name, .nat n)

theorem isField_members {e : Event} (h : e.InRange) : ∀ m ∈ e.members, IsField m := by
  have hfeedback : ∀ f, ∀ m ∈ feedbackMember f, IsField m := by
    intro f m hm
    obtain ⟨s, -, rfl⟩ := Option.map_eq_some_iff.mp (Option.mem_toList.mp hm)
    exact .text s (by decide)
  intro m hm
  cases e with
  | diagramFixing s f =>
    rcases List.mem_cons.mp hm with rfl | hm
    · exact .text s (by decide)
    · exact hfeedback f m hm
  | error s c f =>
    rcases List.mem_cons.mp hm with rfl | hm
    · exact .text s (by decide)
    rcases List.mem_cons.mp hm with rfl | hm
    · exact .text c.name (by decide)
    · exact hfeedback f m hm
  | _ =>
    simp only [members, List.mem_cons, List.not_mem_nil, or_false] at hm
    rcases hm with rfl | rfl | rfl | rfl
    all_goals first
      | exact .text _ (by decide)
      | exact .nat (by decide) h.1
      | exact .nat (by decide) h.2

theorem isWritten_toJson {e : Event} (h : e.InRange) : e.toJson.IsWritten := by
  refine Json.isWritten_record ?_
  intro m hm
  rcases List.mem_cons.mp hm with rfl | hm
  · exact .text e.status
  · rcases isField_members h m hm with ⟨s, -⟩ | ⟨-, -⟩
    · exact .text s
    · exact Json.isWritten_nat _

theorem isSound_toJson {e : Event} (h : e.InRange) : e.toJson.isSound maxDepth = true := by
  show (Json.object _).isSound 127 = true
  rw [Json.isSound, List.all_eq_true]
  intro m hm
  obtain ⟨n, hn, rfl⟩ := List.mem_map.mp hm
  rw [Bool.and_eq_true]
  refine ⟨rfl, ?_⟩
  rcases List.mem_cons.mp hn with rfl | hn
  · rfl
  · rcases isField_members h n hn with ⟨s, -⟩ | ⟨-, hlt⟩
    · rfl
    · exact Number.float?_ofNat (Nat.lt_trans hlt (by decide))

theorem statusOf?_toJson {e : Event} (h : e.InRange) :
    statusOf? e.toJson = some (e.status, Json.record e.members) := by
  have hrecord : ∀ ms, Json.record ms = .object (ms.map fun m => (some m.1, m.2)) := fun _ => rfl
  have hne : ∀ m ∈ e.members.map fun m => (some m.1, m.2), m.1 ≠ some "status" := by
    intro m hm
    obtain ⟨n, hn, rfl⟩ := List.mem_map.mp hm
    rcases isField_members h n hn with ⟨s, hk⟩ | ⟨hk, -⟩
    · exact fun he => hk (Option.some.inj he)
    · exact fun he => hk (Option.some.inj he)
  have hnone : (e.members.map fun m => (some m.1, m.2)).filter
      (fun m => m.1 = some "status") = [] :=
    List.filter_eq_nil_iff.mpr fun m hm => by simpa using hne m hm
  have hall : (e.members.map fun m => (some m.1, m.2)).filter
      (fun m => m.1 ≠ some "status") = e.members.map fun m => (some m.1, m.2) :=
    List.filter_eq_self.mpr fun m hm => by simpa using hne m hm
  rw [toJson, hrecord, hrecord, List.map_cons, statusOf?, List.filter_cons_of_pos (by simp), hnone,
    List.filter_cons_of_neg (by simp), hall]
  rfl

theorem ofFields?_members {e : Event} (h : e.InRange) :
    ofFields? e.status (Json.record e.members) = some e := by
  have hattempts : ∀ {n : Nat}, n < Decimal.twoTo 32 →
      (Slot.given (Json.nat n)).required attempts? = some n :=
    fun hn => Number.natural?_ofNat hn (by decide)
  cases e with
  | diagramFixing s f => cases f <;> rfl
  | error s c f => cases f <;> cases c <;> rfl
  | diagramFixAttempt s i n f =>
    show (do
      return diagramFixAttempt s (← (Slot.given (Json.nat i)).required attempts?)
        (← (Slot.given (Json.nat n)).required attempts?) f) = _
    rw [hattempts h.1, hattempts h.2]
    rfl
  | diagramFixChunk c i n =>
    show (do
      return diagramFixChunk c (← (Slot.given (Json.nat i)).required attempts?)
        (← (Slot.given (Json.nat n)).required attempts?)) = _
    rw [hattempts h.1, hattempts h.2]
    rfl
  | diagramFixValidating s i n =>
    show (do
      return diagramFixValidating s (← (Slot.given (Json.nat i)).required attempts?)
        (← (Slot.given (Json.nat n)).required attempts?)) = _
    rw [hattempts h.1, hattempts h.2]
    rfl
  | _ => rfl

/-- **The compact text of an event is read as this event.** -/
theorem ofText_render {e : Event} (h : e.InRange) : ofText e.toJson.render = some e := by
  rw [ofText, (isWritten_toJson h).ofText?_render, Option.bind_some, ofJson?,
    if_pos (isSound_toJson h), statusOf?_toJson h]
  exact ofFields?_members h

theorem mapM_ofText_render {es : List Event} (h : ∀ e ∈ es, e.InRange) :
    (es.map (·.toJson.render)).mapM ofText = some es := by
  induction es with
  | nil => rfl
  | cons e es ih =>
    have he := ofText_render (h e List.mem_cons_self)
    have hes := ih fun f hf => h f (List.mem_cons_of_mem _ hf)
    rw [List.map_cons, List.mapM_cons, he, hes]
    rfl

end ArchDiagram.Event

/-! ## Frames -/

namespace ArchDiagram.Sse

theorem isWhole_of_not_mem {bs : List UInt8} (h : 10 ∉ bs) : IsWhole bs := by
  induction bs with
  | nil => exact .nil
  | cons b bs ih =>
    cases bs with
    | nil => exact .singleton b
    | cons c bs =>
      refine .cons_cons (fun hbc => h ?_) (ih fun hm => h (List.mem_cons_of_mem _ hm))
      rw [hbc.1]
      exact List.mem_cons_self

/-- The payload of a block of one line is what stands in this line. -/
theorem payload?_data {cs : List Char} (h : '\n' ∉ cs) :
    payload? (Utf8.octets ("data: ".toList ++ cs)) = some (String.ofList cs) := by
  have hline : '\n' ∉ "data: ".toList ++ cs := by
    intro hm
    rcases List.mem_append.mp hm with hm | hm
    · exact absurd hm (by decide)
    · exact h hm
  have htext := Utf8.decodeLossy_encode (String.ofList ("data: ".toList ++ cs))
  rw [Utf8.encode_eq_octets, String.toList_ofList] at htext
  have hdata : dataOf? ("data: ".toList ++ cs) = some cs := by simp [dataOf?, Text.dropFront?]
  rw [payload?_eq, values, htext, String.toList_ofList, List.splitOn_eq_singleton hline,
    List.filterMap_cons_some hdata]
  simp [ofValues]

def frameOctets (cs : List Char) : List UInt8 :=
  Utf8.octets ("data: ".toList ++ cs) ++ [10, 10]

variable {texts : List (List Char)}

/-- Frames of texts without control characters are cut into their blocks. -/
theorem cut_frames (h : ∀ cs ∈ texts, Text.Uncontrolled cs) :
    Cut (kept (texts.flatMap frameOctets))
      (texts.map fun cs => Utf8.octets ("data: ".toList ++ cs)) [] := by
  have hle : ∀ cs ∈ texts, ∀ b ∈ Utf8.octets ("data: ".toList ++ cs), 32 ≤ b.toNat := by
    intro cs hcs
    have hdata : Text.Uncontrolled "data: ".toList := by simp [Text.Uncontrolled]
    exact Utf8.le_of_mem_octets (hdata.append (h cs hcs))
  refine ⟨?_, ?_, .nil⟩
  · -- no carriage return stands anywhere, so every octet counts
    have hkept : kept (texts.flatMap frameOctets) = texts.flatMap frameOctets := by
      refine List.filter_eq_self.mpr fun b hb => ?_
      obtain ⟨cs, hcs, hb⟩ := List.mem_flatMap.mp hb
      have hne : b ≠ 13 := by
        rintro rfl
        rcases List.mem_append.mp hb with hb | hb
        · exact absurd (hle cs hcs 13 hb) (by decide)
        · exact absurd hb (by decide)
      exact decide_eq_true hne
    rw [hkept, List.flatMap_map, List.append_nil]
    rfl
  · intro b hb
    obtain ⟨cs, hcs, rfl⟩ := List.mem_map.mp hb
    refine isWhole_of_not_mem fun hm => ?_
    exact absurd (hle cs hcs 10 hm) (by decide)

/-- The payloads of frames are the texts in them. -/
theorem filterMap_payload?_frames (h : ∀ cs ∈ texts, Text.Uncontrolled cs) :
    (texts.map fun cs => Utf8.octets ("data: ".toList ++ cs)).filterMap payload? =
      texts.map String.ofList := by
  induction texts with
  | nil => rfl
  | cons cs texts ih =>
    have hcs : '\n' ∉ cs := (h cs List.mem_cons_self).not_mem (by decide)
    have htexts := ih fun ds hds => h ds (List.mem_cons_of_mem _ hds)
    rw [List.map_cons, List.filterMap_cons_some (payload?_data hcs), htexts, List.map_cons]

end ArchDiagram.Sse

namespace ArchDiagram.Event

/-! ## Many events -/

theorem encode_frames (es : List Event) :
    Utf8.encode (String.join (es.map frame)) =
      (es.map fun e => e.toJson.chars).flatMap Sse.frameOctets := by
  have hframe : ∀ e : Event, Utf8.octets e.frame.toList = Sse.frameOctets e.toJson.chars := by
    intro e
    have hend : Utf8.octets "\n\n".toList = [10, 10] := by decide
    have hrender : e.toJson.render.toList = e.toJson.chars := String.toList_ofList
    rw [frame, String.toList_append, String.toList_append, Utf8.octets_append, hend, hrender]
    rfl
  rw [Utf8.encode_eq_octets, String.toList_join]
  induction es with
  | nil => rfl
  | cons e es ih =>
    rw [List.map_cons, List.flatMap_cons, Utf8.octets_append, ih, hframe, List.map_cons,
      List.flatMap_cons]

theorem toList_lines (es : List Event) :
    (String.join (es.map line)).toList = (es.map fun e => e.toJson.chars).flatMap (· ++ ['\n']) := by
  have hline : ∀ e : Event, e.line.toList = e.toJson.chars ++ ['\n'] := by
    intro e
    rw [line, String.toList_append, Json.render, String.toList_ofList]
    rfl
  rw [String.toList_join, List.flatMap_map, List.flatMap_map]
  exact List.flatMap_congr fun e _ => hline e

/-- Events reach whoever reads them, from the pieces of a body of frames and from printed lines. -/
structure ReadBack (es : List Event) (pieces : List (List UInt8)) : Prop where
  /-- The pieces complete one payload for each event, its compact text. -/
  payloads_eq : (Sse.Decoder.empty.pushAll pieces).1.flatten = es.map (·.toJson.render)
  /-- No other payload is left at the end. -/
  finish_eq : (Sse.Decoder.empty.pushAll pieces).2.finish.1 = []
  /-- The payloads are read as the events, in order. -/
  read : (Sse.Decoder.empty.pushAll pieces).1.flatten.mapM ofText = some es
  /-- A compact text is one line. -/
  oneLine : ∀ e ∈ es, '\r' ∉ e.toJson.render.toList ∧ '\n' ∉ e.toJson.render.toList
  /-- The lines that are printed are the compact texts. -/
  lines_eq : (Text.lines (String.join (es.map line)).toList).map String.ofList =
    es.map (·.toJson.render)
  /-- They are read as the events, in order. -/
  lines_read : ((Text.lines (String.join (es.map line)).toList).map String.ofList).mapM ofText =
    some es

/-- **Events that are sent as frames are read back, however their body is cut into pieces**, and so
are events that are printed as lines. -/
theorem frames_readBack (es : List Event) (hes : ∀ e ∈ es, e.InRange) (pieces : List (List UInt8))
    (hpieces : pieces.flatten = Utf8.encode (String.join (es.map frame))) :
    ReadBack es pieces := by
  have hevent : ∀ e ∈ es, Text.Uncontrolled e.toJson.chars :=
    fun e he => (isWritten_toJson (hes e he)).uncontrolled
  have htexts : ∀ cs ∈ es.map fun e => e.toJson.chars, Text.Uncontrolled cs :=
    List.forall_mem_map.mpr hevent
  have hrender : (es.map fun e => e.toJson.chars).map String.ofList = es.map (·.toJson.render) :=
    List.map_map
  -- the empty line that ends a frame is the only one in it, so the frames are the blocks
  have hcut := Sse.cut_frames htexts
  rw [← encode_frames, ← hpieces] at hcut
  obtain ⟨hpayloads, hfinish⟩ := Sse.Decoder.pushAll_of_cut hcut
  rw [Sse.filterMap_payload?_frames htexts, hrender] at hpayloads
  have hlines : (Text.lines (String.join (es.map line)).toList).map String.ofList =
      es.map (·.toJson.render) := by
    rw [toList_lines, Text.lines_flatMap, hrender]
    exact fun cs hcs => (htexts cs hcs).not_mem (by decide)
  refine ⟨hpayloads, hfinish, ?_, ?_, hlines, ?_⟩
  · rw [hpayloads]
    exact mapM_ofText_render hes
  · intro e he
    rw [Json.render, String.toList_ofList]
    exact ⟨(hevent e he).not_mem (by decide), (hevent e he).not_mem (by decide)⟩
  · rw [hlines]
    exact mapM_ofText_render hes

theorem frames_readBack_octetwise :
    ReadBack [diagramFixAttempt "\"\r\n\\\u0001" 1 4294967295 "😀"]
      ((Utf8.encode (String.join
        ([diagramFixAttempt "\"\r\n\\\u0001" 1 4294967295 "😀"].map frame))).map ([·])) :=
  frames_readBack _ (by decide) _ (by rw [← List.flatMap_def, List.flatMap_singleton'])

end ArchDiagram.Event
