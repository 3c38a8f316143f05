import ArchDiagram.Decimal.Digits
import ArchDiagram.Decimal.Binary64

/-!
# Amounts with two places

An amount is rounded to the nearest hundredth of its exact value; a half goes to the even
neighbour.
-/

namespace ArchDiagram.Decimal

/-- The natural number nearest to `num / den`; a half goes to the even neighbour. -/
def roundDiv (num den : Nat) : Nat :=
  let q := num / den
  let twice := 2 * (num % den)
  if twice < den then q
  else if twice > den then q + 1
  else if q % 2 = 0 then q else q + 1

def twoPlaces (x : Float) : String :=
  let b := Binary64.ofFloat x
  let (num, den) := scaled b.mantissa b.exponent
  let hundredths := roundDiv (num * 100) den
  let places := hundredths % 100
  let sign := if b.negative then ['-'] else []
  String.ofList (sign ++ chars (hundredths / 100) ++
    ['.', digitChar (places / 10), digitChar (places % 10)])

end ArchDiagram.Decimal
