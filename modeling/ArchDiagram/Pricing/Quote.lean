import ArchDiagram.Decimal.Places
import ArchDiagram.Pricing.Family

/-!
# Quotes

A quote tells in advance what a diagram will cost.  It doubles the input of the first stage and adds
a fixed amount, because later stages and repairs read input as well, and it assumes a fixed output.
-/

namespace ArchDiagram

/-- The cost of a whole run, estimated before it starts. -/
structure Quote where
  /-- The price as text, such as `$0.15 USD`. -/
  cost : String
  model : String
  family : String
  inputTokens : Nat
  outputTokens : Nat
  rate : Rate

namespace Quote

/-- How often the input of the first stage is counted. -/
def inputFactor : Nat := 2

def inputOverhead : Nat := 3000

def assumedOutput : Nat := 8000

/-- The greatest token count that is priced; larger ones cost the same. -/
def tokenCap : Nat := Decimal.twoTo 63 - 1

/-- The quote for a run whose first stage reads `base` tokens. -/
def ofBase (model : String) (base : Nat) : Quote :=
  let input := base * inputFactor + inputOverhead
  let (family, rate) := Pricing.priceOf model
  let usd := rate.cost (min input tokenCap) assumedOutput
  ⟨"$" ++ Decimal.twoPlaces usd ++ " USD", model, family, input, assumedOutput, rate⟩

def fieldNames : List String :=
  ["cost", "model", "pricing_model", "estimated_input_tokens", "estimated_output_tokens", "pricing"]

def toJson (q : Quote) : Json :=
  .record (fieldNames.zip
    [.text q.cost, .text q.model, .text q.family, .nat q.inputTokens, .nat q.outputTokens,
      q.rate.toJson])

def count? : Json → Option Nat :=
  Json.natural? (Decimal.twoTo 64)

def ofJson? (j : Json) : Option Quote := do
  match ← j.slots fieldNames with
  | [c, m, f, i, o, r] =>
    return ⟨← c.required Json.text?, ← m.required Json.text?, ← f.required Json.text?,
      ← i.required count?, ← o.required count?, ← r.required Rate.ofJson?⟩
  | _ => none

end Quote

end ArchDiagram
