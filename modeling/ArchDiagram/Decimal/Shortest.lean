import ArchDiagram.Decimal.Digits
import ArchDiagram.Decimal.Binary64

/-!
# The shortest decimal that reads back

Every binary number has an interval of reals that round to it.  Its shortest decimal has the fewest
digits of all decimals in that interval, and of those it is the nearest to the number.  A decimal
grid with a point in the interval also has one of the number's two neighbours on that grid in it, so
that trying those two at one digit, two digits and so on finds it.

* `shortest`: digits and the place of the point.
-/

namespace ArchDiagram.Decimal

/-- The magnitude `0.d₁d₂d₃… · 10 ^ point`. -/
structure Scientific where
  digits : List Nat
  point : Int

/-- The greatest `k` below `fuel` with `10 ^ k · den ≤ num`, counted up from `k`. -/
def decadeUp (num den k : Nat) : Nat → Nat
  | 0 => k
  | fuel + 1 => if tenTo (k + 1) * den ≤ num then decadeUp num den (k + 1) fuel else k

/-- The least `k` with `den ≤ num · 10 ^ k`, counted up from `k`. -/
def decadeDown (num den k : Nat) : Nat → Nat
  | 0 => k
  | fuel + 1 => if den ≤ num * tenTo k then k else decadeDown num den (k + 1) fuel

/-- The integer `k` with `10 ^ (k - 1) ≤ num / den < 10 ^ k`, for `num` not zero. -/
def pointOf (num den : Nat) : Int :=
  if den ≤ num then (decadeUp num den 0 400 : Int) + 1
  else 1 - (decadeDown num den 1 400 : Int)

/-- Whether `n · 10 ^ e` rounds to the number; the ends of the interval count if the mantissa is
even. -/
def readsBack (b : Binary64) (n : Nat) (e : Int) : Bool :=
  -- everything in quarters of the last binary place
  let (num, den) := match e with
    | .ofNat k => (n * tenTo k, 1)
    | .negSucc k => (n, tenTo (k + 1))
  let (unitNum, unitDen) := scaled 1 (b.exponent - 2)
  let low := 4 * b.mantissa - (if b.narrowBelow then 1 else 2)
  let high := 4 * b.mantissa + 2
  let left := num * unitDen
  let bottom := low * unitNum * den
  let top := high * unitNum * den
  if b.mantissa % 2 = 0 then bottom ≤ left && left ≤ top else bottom < left && left < top

/-- The nearest decimal with `count` digits that reads back, if one does; of two equally near ones
the even one. -/
def tryCount (b : Binary64) (point : Int) (count : Nat) : Option Scientific :=
  let (num, den) := scaled b.mantissa b.exponent
  let e : Int := point - count
  let (n, d) := match e with
    | .ofNat k => (num, den * tenTo k)
    | .negSucc k => (num * tenTo (k + 1), den)
  let below := n / d
  let rest := n % d
  let lowOk := below ≠ 0 && readsBack b below e
  let highOk := readsBack b (below + 1) e
  let pick (m : Nat) : Option Scientific :=
    let ds := Decimal.digits m
    some ⟨ds, e + ds.length⟩
  if rest = 0 then pick below
  else if lowOk && highOk then
    if 2 * rest < d then pick below
    else if 2 * rest > d then pick (below + 1)
    else if below % 2 = 0 then pick below else pick (below + 1)
  else if lowOk then pick below
  else if highOk then pick (below + 1)
  else none

def tryCounts (b : Binary64) (point : Int) (count : Nat) : Nat → Scientific
  | 0 => ⟨[0], 0⟩
  | fuel + 1 => (tryCount b point count).getD (tryCounts b point (count + 1) fuel)

def dropTrailingZeros (ds : List Nat) : List Nat :=
  (ds.reverse.dropWhile (· == 0)).reverse

/-- The shortest decimal of the magnitude of a finite number that is not zero. -/
def shortest (b : Binary64) : Scientific :=
  let (num, den) := scaled b.mantissa b.exponent
  let s := tryCounts b (pointOf num den) 1 17
  ⟨dropTrailingZeros s.digits, s.point⟩

end ArchDiagram.Decimal
