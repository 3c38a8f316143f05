import ArchDiagram.Decimal.Digits

/-!
# Base64

Three octets are written as four symbols of six bits each.  A last group of one or two octets is
filled up with zero bits and padded to four symbols.  Only the form that writing produces is read:
the padding must be there and the bits that fill up must be zero.

* `encode`: the symbols of octets.
* `decode?`: the octets of symbols.
* `faultOf`: what is wrong with symbols that cannot be read.
-/

namespace ArchDiagram.Base64

def symbol (n : Nat) : Char :=
  if n < 26 then Char.ofNat (65 + n)
  else if n < 52 then Char.ofNat (71 + n)
  else if n < 62 then Char.ofNat (n - 4)
  else if n = 62 then '+'
  else '/'

def sextet? (c : Char) : Option Nat :=
  let n := c.toNat
  if 65 ≤ n ∧ n ≤ 90 then some (n - 65)
  else if 97 ≤ n ∧ n ≤ 122 then some (n - 71)
  else if 48 ≤ n ∧ n ≤ 57 then some (n + 4)
  else if n = 43 then some 62
  else if n = 47 then some 63
  else none

def encode : List UInt8 → List Char
  | [] => []
  | [a] =>
    let n := a.toNat
    [symbol (n / 4), symbol (n % 4 * 16), '=', '=']
  | [a, b] =>
    let n := a.toNat * 256 + b.toNat
    [symbol (n / 1024), symbol (n / 16 % 64), symbol (n % 16 * 4), '=']
  | a :: b :: c :: rest =>
    let n := (a.toNat * 256 + b.toNat) * 256 + c.toNat
    symbol (n / 262144) :: symbol (n / 4096 % 64) :: symbol (n / 64 % 64) :: symbol (n % 64) ::
      encode rest

def octet (n : Nat) : UInt8 :=
  UInt8.ofNat (n % 256)

/-- The octets of a last group whose padding takes up what follows `b`. -/
def lastOne? (a b : Char) : Option (List UInt8) := do
  let n := (← sextet? a) * 64 + (← sextet? b)
  if n % 16 = 0 then some [octet (n / 16)] else none

/-- The octets of a last group whose padding takes up what follows `c`. -/
def lastTwo? (a b c : Char) : Option (List UInt8) := do
  let n := ((← sextet? a) * 64 + (← sextet? b)) * 64 + (← sextet? c)
  if n % 4 = 0 then some [octet (n / 1024), octet (n / 4)] else none

/-- Reads groups of four symbols; `done` holds the octets so far, reversed. -/
def decodeLoop (done : List UInt8) : List Char → Option (List UInt8)
  | [] => some done.reverse
  | [a, b, '=', '='] => (lastOne? a b).map (done.reverse ++ ·)
  | [a, b, c, '='] => (lastTwo? a b c).map (done.reverse ++ ·)
  | a :: b :: c :: d :: rest => do
    let n := (((← sextet? a) * 64 + (← sextet? b)) * 64 + (← sextet? c)) * 64 + (← sextet? d)
    decodeLoop (octet n :: octet (n / 256) :: octet (n / 65536) :: done) rest
  | _ => none

/-- The octets of symbols, for exactly the symbols that writing produces. -/
def decode? (cs : List Char) : Option (List UInt8) :=
  decodeLoop [] cs

/-! ## Faults -/

/-- What is wrong with symbols, which are looked at octet by octet. -/
inductive Fault where
  /-- The octet at this place is no symbol. -/
  | symbol (b : UInt8) (place : Nat)
  /-- One symbol is left over. -/
  | length (count : Nat)
  /-- The padding is not as it should be. -/
  | padding
  /-- The symbol at this place has bits that belong to no octet. -/
  | lastSymbol (b : UInt8) (place : Nat)
  deriving DecidableEq

def Fault.message : Fault → String
  | symbol b place =>
    "Invalid symbol " ++ Decimal.text b.toNat ++ ", offset " ++ Decimal.text place ++ "."
  | length count => "Invalid input length: " ++ Decimal.text count
  | padding => "Invalid padding"
  | lastSymbol b place =>
    "Invalid last symbol " ++ Decimal.text b.toNat ++ ", offset " ++ Decimal.text place ++ "."

def isSymbol (b : UInt8) : Bool :=
  (sextet? (Char.ofNat b.toNat)).isSome

def pad : UInt8 := 61

/-- Whether `rest` pads the group in which the octets before it, `n` in number, end. -/
def isPadding (n : Nat) (rest : List UInt8) : Bool :=
  2 ≤ n % 4 && n % 4 + rest.length ≤ 4 && rest.all (· == pad)

/-- What is wrong with octets of which the first `front` are symbols and the others, `rest`, start
with one that is not. -/
def faultAfter (front rest : List UInt8) : Fault :=
  let n := front.length
  if isPadding n rest then
    if (n + rest.length) % 4 = 0 then .lastSymbol (front.getLastD pad) (n - 1) else .padding
  else .symbol (rest.headD pad) n

/-- What is wrong with octets that cannot be read.  A single octet left over after the last group is
looked at first. -/
def faultOf (bs : List UInt8) : Fault :=
  let n := bs.length
  let last := bs.getLastD pad
  if n % 4 = 1 ∧ last ≠ pad ∧ !isSymbol last then .symbol last (n - 1)
  else
    let front := bs.takeWhile isSymbol
    match bs.drop front.length with
    | [] => if n % 4 = 1 then .length n else .padding
    | rest => faultAfter front rest

end ArchDiagram.Base64
