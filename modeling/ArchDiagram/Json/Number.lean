import ArchDiagram.Decimal.Shortest
import ArchDiagram.Text.Blank

/-!
# JSON numbers

A number is kept as its literal: a sign, the digits of its integer part, those of its fraction and
its exponent.  What it denotes is asked for separately, because whether a literal is in range
depends on the kind of number that is wanted.

* `Number.ofNat`, `Number.ofFloat`: the literal that is written for a number.
* `Number.chars`: the text of a literal.
* `Number.ofChars?`: the literal of a text.
* `Number.natural?`, `Number.float?`: what a literal denotes.
-/

namespace ArchDiagram

open Decimal

/-- A JSON number as it is written.  An empty fraction means that there is no point. -/
structure Number where
  negative : Bool
  whole : List Nat
  fraction : List Nat
  /-- Whether the exponent is negative, and its digits. -/
  exponent : Option (Bool × List Nat)
  deriving DecidableEq

namespace Number

def ofNat (n : Nat) : Number :=
  ⟨false, digits n, [], none⟩

/-- The literal of a shortest decimal: positional while the point stands at most sixteen places to
the right of the first digit or at most four to the left of it, and otherwise with one digit before
the point and an exponent. -/
def ofScientific (negative : Bool) (s : Scientific) : Number :=
  let count : Int := s.digits.length
  if count ≤ s.point ∧ s.point ≤ 16 then
    ⟨negative, s.digits ++ List.replicate (s.point - count).toNat 0, [0], none⟩
  else if 0 < s.point ∧ s.point ≤ 16 then
    ⟨negative, s.digits.take s.point.toNat, s.digits.drop s.point.toNat, none⟩
  else if -5 < s.point ∧ s.point ≤ 0 then
    ⟨negative, [0], List.replicate (-s.point).toNat 0 ++ s.digits, none⟩
  else
    let e := s.point - 1
    ⟨negative, s.digits.take 1, s.digits.drop 1, some (decide (e < 0), digits e.natAbs)⟩

/-- The literal of a finite floating-point number: the fewest digits that read back. -/
def ofFloat (x : Float) : Number :=
  let b := Binary64.ofFloat x
  if b.mantissa = 0 then ⟨b.negative, [0], [0], none⟩
  else ofScientific b.negative (shortest b)

/-- The text of a literal, in which an exponent has a sign. -/
def chars (n : Number) : List Char :=
  (if n.negative then ['-'] else []) ++ n.whole.map digitChar ++
    (if n.fraction.isEmpty then [] else '.' :: n.fraction.map digitChar) ++
    (match n.exponent with
      | none => []
      | some (neg, ds) => 'e' :: (if neg then '-' else '+') :: ds.map digitChar)

/-- The ASCII digits at the start of a text, and the rest. -/
def leadingDigits (cs : List Char) : List Nat × List Char :=
  ((cs.takeWhile (fun c => (digitOf? c).isSome)).filterMap digitOf?,
    cs.dropWhile (fun c => (digitOf? c).isSome))

/-- The exponent after its mark: a sign or none, then one or more digits, then nothing. -/
def exponentOf? (cs : List Char) : Option (Bool × List Nat) :=
  let (neg, rest) := match cs with
    | '-' :: r => (true, r)
    | '+' :: r => (false, r)
    | r => (false, r)
  match leadingDigits rest with
  | ([], _) => none
  | (ds, []) => some (neg, ds)
  | _ => none

/-- The literal of a text.  The integer part has no leading zero, and a point or an exponent mark is
followed by digits. -/
def ofChars? (cs : List Char) : Option Number :=
  let (negative, cs) := match cs with
    | '-' :: r => (true, r)
    | r => (false, r)
  match leadingDigits cs with
  | ([], _) => none
  | (0 :: _ :: _, _) => none
  | (whole, rest) =>
    let tail (fraction : List Nat) : List Char → Option Number
      | [] => some ⟨negative, whole, fraction, none⟩
      | c :: r => if c = 'e' ∨ c = 'E' then
          (exponentOf? r).map fun e => ⟨negative, whole, fraction, some e⟩
        else none
    match rest with
    | '.' :: r =>
      match leadingDigits r with
      | ([], _) => none
      | (fraction, r) => tail fraction r
    | r => tail [] r

/-- The natural number below `bound` that an integer literal without sign denotes. -/
def natural? (bound : Nat) (n : Number) : Option Nat :=
  if n.negative ∨ n.fraction ≠ [] ∨ n.exponent ≠ none ∨ 20 < n.whole.length then none
  else if value n.whole < bound then some (value n.whole) else none

/-- The integer from `-bound` to below `bound` that an integer literal denotes. -/
def integer? (bound : Nat) (n : Number) : Option Int :=
  if n.fraction ≠ [] ∨ n.exponent ≠ none ∨ 20 < n.whole.length then none
  else
    let v := value n.whole
    if n.negative then (if v ≤ bound then some (-(v : Int)) else none)
    else if v < bound then some v else none

/-! ## Floating-point value

A literal is read as a 64-bit significand and a power of ten: digits that no longer fit into the
significand are dropped, and the value is the significand multiplied or divided once by the power.
-/

/-- Takes digits into a significand as long as it stays below `2 ^ 64`; answers the significand, the
number of digits taken and the digits left. -/
def fill (significand taken : Nat) : List Nat → Nat × Nat × List Nat
  | [] => (significand, taken, [])
  | d :: ds =>
    if significand * 10 + d < twoTo 64 then fill (significand * 10 + d) (taken + 1) ds
    else (significand, taken, d :: ds)

def power (n : Nat) : Float :=
  Float.ofScientific 1 false n

/-- Multiplies or divides by a power of ten; none if the result is too large. -/
def scale (f : Float) (e : Int) : Nat → Option Float
  | 0 => some f
  | fuel + 1 =>
    if e.natAbs ≤ 308 then
      if 0 ≤ e then
        let g := f * power e.natAbs
        if g.isInf then none else some g
      else some (f / power e.natAbs)
    else if f == 0.0 then some f
    else if 0 ≤ e then none
    else scale (f / power 308) (e + 308) fuel

def ofSignificand (s : Nat) : Float :=
  (UInt64.ofNat s).toFloat

/-- The magnitude of a literal, none if it is too large. -/
def magnitude? (n : Number) : Option Float :=
  let (whole, _, left) := fill 0 0 n.whole
  if left.isEmpty ∧ n.fraction = [] ∧ n.exponent = none then some (ofSignificand whole)
  else
    let (s, taken, _) := fill whole 0 n.fraction
    let e : Int := (left.length : Int) - taken
    match n.exponent with
    | none => scale (ofSignificand s) e 8
    | some (neg, ds) =>
      let ds := ds.dropWhile (· == 0)
      if 10 < ds.length ∨ twoTo 31 ≤ value ds then
        if s ≠ 0 ∧ !neg then none else some 0.0
      else scale (ofSignificand s) (if neg then e - value ds else e + value ds) 8

/-- The floating-point number that a literal denotes, none if it is too large. -/
def float? (n : Number) : Option Float :=
  n.magnitude?.map fun f => if n.negative then -f else f

end Number

end ArchDiagram
