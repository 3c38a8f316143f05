import ArchDiagram.Proofs.Json.Reader
import ArchDiagram.Server.Route

/-!
# What an answer of the service says

An answer whose body is a JSON object is read back member by member.  What the service answers is
written from texts, small numbers and the prices of the table, all of which can be written, so the
members that are read are those that were put in.

* `Server.Reply.member?`: a member of the object in the body of an answer.
* `Server.member?_jsonReply`: **the members of a record are read back from its answer**.
* `Pricing.isWritten_priceOf`: the prices of every model can be written.
-/

namespace ArchDiagram

/-! ## Prices -/

namespace Pricing

theorem isWritten_rates : ∀ e ∈ rates,
    (Number.ofFloat e.2.input).IsWritten ∧ (Number.ofFloat e.2.output).IsWritten := by
  decide +kernel

theorem exists_mem_rates (model : String) : ∃ name, (name, (priceOf model).2) ∈ rates := by
  rw [priceOf]
  cases h : rateOf? (familyOf model) with
  | none => exact ⟨defaultFamily, List.mem_cons_self⟩
  | some rate =>
    obtain ⟨before, after, hrates, -⟩ := List.lookup_eq_some_iff.mp h
    refine ⟨familyOf model, ?_⟩
    rw [hrates]
    exact List.mem_append_right _ List.mem_cons_self

theorem isWritten_priceOf (model : String) : (priceOf model).2.toJson.IsWritten := by
  obtain ⟨name, hmem⟩ := exists_mem_rates model
  obtain ⟨hinput, houtput⟩ := isWritten_rates _ hmem
  refine Json.isWritten_record ?_
  intro m hm
  simp only [Rate.fieldNames, List.zip_cons_cons, List.zip_nil_right, List.mem_cons,
    List.not_mem_nil, or_false] at hm
  rcases hm with rfl | rfl
  · exact .number hinput
  · exact .number houtput

end Pricing

theorem Quote.isWritten_resultJson (model : String) (base : Nat) :
    (Quote.ofBase model base).resultJson.IsWritten := by
  refine Json.isWritten_record ?_
  intro m hm
  simp only [List.mem_cons, List.not_mem_nil, or_false] at hm
  rcases hm with rfl | rfl | rfl | rfl | rfl | rfl | rfl
  · exact .text _
  · exact Json.isWritten_nat _
  · exact Json.isWritten_nat _
  · exact .text _
  · exact .bool _
  · exact Pricing.isWritten_priceOf model
  · exact .text _

theorem Failure.isWritten_quoteJson (f : Failure) : f.quoteJson.IsWritten := by
  refine Json.isWritten_record ?_
  intro m hm
  simp only [List.mem_cons, List.not_mem_nil, or_false] at hm
  rcases hm with rfl | rfl | rfl
  · exact .text _
  · exact .text _
  · exact .bool _

namespace Server

/-! ## Members -/

def Reply.member? (x : Reply) (name : String) : Option Json :=
  match Json.ofText? x.body with
  | some (.object ms) => (ms.find? fun m => m.1 = some name).map (·.2)
  | _ => none

def Reply.ok? (x : Reply) : Option Bool :=
  (x.member? "ok").bind Json.bool?

def Reply.errorCode? (x : Reply) : Option String :=
  (x.member? "error_code").bind Json.text?

/-- **The members of a record are read back from its answer.** -/
theorem member?_jsonReply {status : Nat} {ms : List (String × Json)}
    (h : (Json.record ms).IsWritten) (name : String) :
    (jsonReply status (.record ms)).member? name = (ms.find? fun m => m.1 = name).map (·.2) := by
  have hbody : Json.ofText? (jsonReply status (.record ms)).body = some (.record ms) :=
    h.ofText?_render
  rw [Reply.member?, hbody, Json.record]
  dsimp only
  rw [List.find?_map, Option.map_map]
  simp [Function.comp_def]

variable {status : Nat}

/-- A failed quote says why. -/
theorem quoteJson_read (f : Failure) : (jsonReply status f.quoteJson).ok? = some false ∧
    (jsonReply status f.quoteJson).errorCode? = some f.quoteCode.name := by
  have hok : (jsonReply status f.quoteJson).member? "ok" = some (.bool false) :=
    (member?_jsonReply f.isWritten_quoteJson "ok").trans rfl
  have hcode : (jsonReply status f.quoteJson).member? "error_code" =
      some f.quoteCode.toJson := (member?_jsonReply f.isWritten_quoteJson "error_code").trans rfl
  rw [Reply.ok?, Reply.errorCode?, hok, hcode]
  exact ⟨rfl, rfl⟩

theorem resultJson_read (model : String) (base : Nat) :
    (jsonReply status (Quote.ofBase model base).resultJson).ok? = some true := by
  have hok : (jsonReply status (Quote.ofBase model base).resultJson).member? "ok" =
      some (.bool true) := (member?_jsonReply (Quote.isWritten_resultJson model base) "ok").trans rfl
  rw [Reply.ok?, hok]
  rfl

theorem invalidReply_read (f : Failure) : (invalidReply f).status = 400 ∧
    (invalidReply f).errorCode? = some "VALIDATION_ERROR" := by
  have hwritten : (Json.record [("ok", .bool false), ("error", .text f.message),
      ("error_code", ErrorCode.validationError.toJson)]).IsWritten := by
    refine Json.isWritten_record ?_
    intro m hm
    simp only [List.mem_cons, List.not_mem_nil, or_false] at hm
    rcases hm with rfl | rfl | rfl
    · exact .bool _
    · exact .text _
    · exact .text _
  have hcode : (invalidReply f).member? "error_code" = some ErrorCode.validationError.toJson :=
    (member?_jsonReply hwritten "error_code").trans rfl
  rw [Reply.errorCode?, hcode]
  exact ⟨rfl, rfl⟩

end Server

end ArchDiagram
