import ArchDiagram.Decimal.Power

/-!
# Exact values of binary floating-point numbers

A finite number of the 64-bit binary format is `m · 2 ^ q` for natural `m` and integer `q`.  `parts`
takes that form out of its bits, so that what is printed can be computed exactly.
-/

namespace ArchDiagram.Decimal

/-- The exact magnitude `mantissa · 2 ^ exponent` of a finite number, its sign, and whether the gap
below it is half the gap above it. -/
structure Binary64 where
  negative : Bool
  mantissa : Nat
  exponent : Int
  narrowBelow : Bool

def Binary64.ofFloat (x : Float) : Binary64 :=
  let bits := x.toBits.toNat
  let fraction := bits % twoTo 52
  let field := bits / twoTo 52 % 2048
  let negative := bits / twoTo 63 == 1
  if field = 0 then ⟨negative, fraction, -1074, false⟩
  else
    let narrow := fraction == 0 && field != 1
    ⟨negative, fraction + twoTo 52, Int.ofNat field - 1075, narrow⟩

/-- The fraction `n · 2 ^ e`, as numerator and denominator. -/
def scaled (n : Nat) (e : Int) : Nat × Nat :=
  match e with
  | .ofNat k => (n * twoTo k, 1)
  | .negSucc k => (n, twoTo (k + 1))

end ArchDiagram.Decimal
