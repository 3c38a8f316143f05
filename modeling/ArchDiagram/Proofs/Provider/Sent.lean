import ArchDiagram.Provider.Client

/-!
# What the provider is sent

A request to the provider carries a key, in the header that authorizes it, and a body.  For a count
this is the body that it would carry for a text, without the mark of a stream.

* `Web.Request.CarriesKey`: a request is authorized with a key.
* `Web.Remote.Sends`: what was sent between two states of a server.
* `TextRequest.toJson_eq_bodyOf`: the bodies of a text and of its count.
-/

namespace ArchDiagram

namespace Web

/-! ## Requests that were sent -/

def Request.CarriesKey (q : Request) (key : String) : Prop :=
  q.headers.lookup "authorization" = some ("Bearer " ++ key)

instance (q : Request) (key : String) : Decidable (q.CarriesKey key) :=
  inferInstanceAs (Decidable (q.headers.lookup "authorization" = some ("Bearer " ++ key)))

theorem Request.CarriesKey.unique {q : Request} {a b : String} (ha : q.CarriesKey a)
    (hb : q.CarriesKey b) : a = b := by
  have h : "Bearer " ++ a = "Bearer " ++ b := Option.some.inj (ha.symm.trans hb)
  have hl : "Bearer ".toList ++ a.toList = "Bearer ".toList ++ b.toList := by
    rw [← String.toList_append, ← String.toList_append, h]
  exact String.toList_inj.mp (List.append_cancel_left hl)

/-- Between the two states of a server requests were sent, all of them with the property `P`. -/
def Remote.Sends (P : Request → Prop) (m m' : Remote) : Prop :=
  ∃ new, m'.sent = new ++ m.sent ∧ ∀ q ∈ new, P q

namespace Remote.Sends

variable {P Q : Request → Prop} {m m' m'' : Remote}

theorem refl (P : Request → Prop) (m : Remote) : Sends P m m :=
  ⟨[], rfl, by simp⟩

theorem trans (h : Sends P m m') (h' : Sends P m' m'') : Sends P m m'' := by
  obtain ⟨new, hn, hp⟩ := h
  obtain ⟨more, hm, hq⟩ := h'
  refine ⟨more ++ new, by rw [hm, hn, List.append_assoc], ?_⟩
  intro q hmem
  exact (List.mem_append.mp hmem).elim (hq q) (hp q)

theorem mono (h : Sends P m m') (hpq : ∀ q, P q → Q q) : Sends Q m m' := by
  obtain ⟨new, hn, hp⟩ := h
  exact ⟨new, hn, fun q hq => hpq q (hp q hq)⟩

end Remote.Sends

theorem eq_of_buildRequest {method url : String} {headers : List (String × String)}
    {body : Option Json} {q : Request} (h : buildRequest? method url headers body = some q) :
    q.headers = headers ∧ q.body = body := by
  simp only [buildRequest?, Option.bind_eq_bind, Option.bind_eq_some_iff] at h
  obtain ⟨u, -, hu⟩ := h
  split at hu
  · cases hu
    exact ⟨rfl, rfl⟩
  · cases hu

end Web

/-! ## The body -/

/-- An object without its members of a name. -/
def Json.without (name : String) : Json → Json
  | .object members => .object (members.filter fun m => m.1 ≠ some name)
  | j => j

theorem Json.without_record (name : String) (members : List (String × Json)) :
    (Json.record members).without name = .record (members.filter fun m => m.1 ≠ name) := by
  have hname : ((fun m : Option String × Json => decide (m.1 ≠ some name)) ∘
      fun m : String × Json => (some m.1, m.2)) = fun m => decide (m.1 ≠ name) := by
    funext m
    simp
  rw [record, without, record, List.filter_map, hname]

/-- The body that asks for a text whose length is not limited. -/
def TextRequest.textBody (r : TextRequest) : Json :=
  .record ([("model", .text r.model), ("input", .array (r.messages.map Message.toJson)),
    ("stream", .bool true)] ++
      (r.effort.map fun e => ("reasoning", Json.record [("effort", .text e.name)])).toList)

/-- The body for a text, or without the mark of a stream the one for its count. -/
def TextRequest.bodyOf (r : TextRequest) (stream : Bool) : Json :=
  if stream then r.textBody else r.textBody.without "stream"

theorem TextRequest.toJson_eq_bodyOf {r : TextRequest} (h : r.maxOutputTokens = none)
    (stream : Bool) : r.toJson stream = r.bodyOf stream := by
  cases stream with
  | true => simp [toJson, bodyOf, textBody, h]
  | false =>
    rw [bodyOf, if_neg nofun, textBody, Json.without_record, toJson, if_neg nofun]
    congr 1
    cases r.effort <;> simp

end ArchDiagram
