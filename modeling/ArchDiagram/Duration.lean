import ArchDiagram.Decimal.Digits
import ArchDiagram.Decimal.Power

/-!
# Durations

A duration is counted in nanoseconds.  It is written in the largest of seconds, milliseconds,
microseconds and nanoseconds that makes its integer part non-zero, with the places after the point
that it needs.
-/

namespace ArchDiagram

structure Duration where
  nanoseconds : Nat
  deriving DecidableEq

namespace Duration

def seconds (n : Nat) : Duration :=
  ⟨n * 1000000000⟩

def milliseconds (n : Nat) : Duration :=
  ⟨n * 1000000⟩

def toMilliseconds (d : Duration) : Nat :=
  d.nanoseconds / 1000000

/-- The digits of `rest` in `places` places after a point, without the zeros at the end; no point if
nothing is left. -/
def fractionChars (rest places : Nat) : List Char :=
  let ds := Decimal.digits rest
  let padded := List.replicate (places - ds.length) 0 ++ ds
  match (padded.reverse.dropWhile (· == 0)).reverse with
  | [] => []
  | kept => '.' :: kept.map Decimal.digitChar

/-- The text in units of `10 ^ places` nanoseconds. -/
def inUnit (n places : Nat) (unit : String) : String :=
  let rest := n % Decimal.tenTo places
  String.ofList (Decimal.chars (n / Decimal.tenTo places) ++
    (if rest = 0 then [] else fractionChars rest places) ++ unit.toList)

def text (d : Duration) : String :=
  let n := d.nanoseconds
  if 1000000000 ≤ n then inUnit n 9 "s"
  else if 1000000 ≤ n then inUnit n 6 "ms"
  else if 1000 ≤ n then inUnit n 3 "µs"
  else inUnit n 0 "ns"

end Duration

end ArchDiagram
