import ArchDiagram.Json.Record

/-!
# Rates

A rate is the price of a million tokens, in US dollars, for input and for output.
-/

namespace ArchDiagram

/-- Prices of a million tokens in US dollars. -/
structure Rate where
  input : Float
  output : Float

namespace Rate

/-- The number nearest to a token count; a negative count costs nothing. -/
def tokens (n : Int) : Float :=
  (UInt64.ofNat n.toNat).toFloat

def cost (r : Rate) (input output : Int) : Float :=
  tokens input / 1000000.0 * r.input + tokens output / 1000000.0 * r.output

def fieldNames : List String :=
  ["input_per_million_usd", "output_per_million_usd"]

def toJson (r : Rate) : Json :=
  .record (fieldNames.zip [.float r.input, .float r.output])

def ofJson? (j : Json) : Option Rate := do
  match ← j.slots fieldNames with
  | [i, o] => return ⟨← i.required Json.float?, ← o.required Json.float?⟩
  | _ => none

end Rate

end ArchDiagram
