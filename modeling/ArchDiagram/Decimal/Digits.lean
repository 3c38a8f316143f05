/-!
# Decimal digits of numbers

A natural number is written by its decimal digits, the greatest place first, without leading zeros.

* `digits`: the digits of a number.
* `value`: the number that digits denote.
* `read?`: the number that a text of ASCII digits denotes.
-/

namespace ArchDiagram.Decimal

/-- The decimal digits of `n`, in front of the digits `rest`. -/
def digitsOnto (rest : List Nat) (n : Nat) : List Nat :=
  if n < 10 then n :: rest else digitsOnto (n % 10 :: rest) (n / 10)
termination_by n

/-- The decimal digits of `n`, the greatest place first. -/
def digits (n : Nat) : List Nat :=
  digitsOnto [] n

def value (ds : List Nat) : Nat :=
  ds.foldl (fun n d => 10 * n + d) 0

def digitChar (d : Nat) : Char :=
  Char.ofNat (48 + d)

def chars (n : Nat) : List Char :=
  (digits n).map digitChar

def text (n : Nat) : String :=
  String.ofList (chars n)

/-- The digit that an ASCII character stands for. -/
def digitOf? (c : Char) : Option Nat :=
  if '0' ≤ c ∧ c ≤ '9' then some (c.toNat - 48) else none

/-- The number that a text of one or more ASCII digits denotes. -/
def read? (cs : List Char) : Option Nat :=
  if cs.isEmpty then none else (cs.mapM digitOf?).map value

end ArchDiagram.Decimal
