import ArchDiagram.Decimal.Power

/-!
# Punycode

A label with characters outside ASCII is sent as ASCII.  Its ASCII characters come first, then a
hyphen if there are any, and then one number for each other character, in ascending order of the
characters.  A number counts the places that are passed over since the character before: places in
the label so far, once around for each character number.  Numbers are written in base 36 with
thresholds that say which digit is the last one, and the thresholds adapt to the numbers seen.

* `encode`: the ASCII form of a label.
* `decode?`: the label of an ASCII form.
-/

namespace ArchDiagram.Web.Punycode

open Decimal

def digitChar (d : Nat) : Char :=
  if d < 26 then Char.ofNat (97 + d) else Char.ofNat (22 + d)

def digit? (c : Char) : Option Nat :=
  if 'a' ≤ c ∧ c ≤ 'z' then some (c.toNat - 97)
  else if 'A' ≤ c ∧ c ≤ 'Z' then some (c.toNat - 65)
  else if '0' ≤ c ∧ c ≤ '9' then some (c.toNat - 22)
  else none

/-- The threshold at position `k`, which goes up by 36 with each digit. -/
def threshold (bias k : Nat) : Nat :=
  if k ≤ bias then 1 else if bias + 26 ≤ k then 26 else k - bias

/-- Divides by 35 until the number is small; counts 36 for each time. -/
def shrink (count n : Nat) : Nat × Nat :=
  if 455 < n then shrink (count + 36) (n / 35) else (count, n)
termination_by n

/-- The bias after a number, which put the `length`-th character into a label. -/
def adapt (number length : Nat) (isFirst : Bool) : Nat :=
  let n := if isFirst then number / 700 else number / 2
  let (count, n) := shrink 0 (n + n / length)
  count + 36 * n / (n + 38)

/-! ## Writing -/

/-- The digits of a number from position `k` on; one digit more than the fuel at most. -/
def number (bias : Nat) : Nat → Nat → Nat → List Char
  | 0, _, n => [digitChar n]
  | fuel + 1, k, n =>
    let t := threshold bias k
    if n < t then [digitChar n]
    else digitChar (t + (n - t) % (36 - t)) :: number bias fuel (k + 36) ((n - t) / (36 - t))

/-- A label that is being written: how many of its characters are written, the places passed over
since the last one, the bias, and the numbers so far, in reverse. -/
structure Writing where
  written : Nat
  passed : Nat
  bias : Nat
  numbers : List (List Char)

/-- Passes a place, or writes the number of the character there if it is `m`; `first` is how many
characters were written before the first number. -/
def Writing.pass (first m : Nat) (w : Writing) (c : Char) : Writing :=
  if c.toNat < m then { w with passed := w.passed + 1 }
  else if c.toNat = m then
    ⟨w.written + 1, 0, adapt w.passed (w.written + 1) (w.written == first),
      number w.bias w.passed 36 w.passed :: w.numbers⟩
  else w

/-- Writes the numbers of all characters `m` of a label, where all characters below `n` are
written. -/
def Writing.round (label : List Char) (first n m : Nat) (w : Writing) : Writing :=
  let w := { w with passed := w.passed + (m - n) * (w.written + 1) }
  let w := label.foldl (Writing.pass first m) w
  { w with passed := w.passed + 1 }

/-- Writes the numbers of the characters `ms`, which ascend from `n` on. -/
def Writing.rounds (label : List Char) (first : Nat) : Nat → List Nat → Writing → Writing
  | _, [], w => w
  | n, m :: ms, w => rounds label first (m + 1) ms (w.round label first n m)

/-- Puts a number into an ascending list, unless it is there. -/
def insertNew (n : Nat) : List Nat → List Nat
  | [] => [n]
  | m :: ms => if n < m then n :: m :: ms else if n = m then m :: ms else m :: insertNew n ms

def encode (label : List Char) : List Char :=
  let ascii := label.filter (·.toNat < 0x80)
  let others := (label.filter (0x80 ≤ ·.toNat)).foldl (fun ms c => insertNew c.toNat ms) []
  let w := Writing.rounds label ascii.length 0x80 others ⟨ascii.length, 0, 72, []⟩
  ascii ++ (if ascii.isEmpty then [] else ['-']) ++ w.numbers.reverse.flatten

/-! ## Reading -/

/-- A label that is being read: its characters so far, the last character put in, the place behind
it, and the bias; of the number that is being read, the sum of its digits by weight, the weight of
the next digit and its position. -/
structure Reading where
  label : List Char
  last : Nat
  place : Nat
  bias : Nat
  sum : Nat
  weight : Nat
  position : Nat

namespace Reading

def start (ascii : List Char) : Reading :=
  ⟨ascii, 0x80, 0, 72, 0, 1, 36⟩

def putIn (r : Reading) : Option Reading :=
  let length := r.label.length + 1
  let places := r.place + r.sum
  let n := r.last + places / length
  if n.isValidChar then
    let i := places % length
    some ⟨r.label.insertIdx i (Char.ofNat n), n, i + 1, adapt r.sum length (r.place == 0), 0, 1, 36⟩
  else none

/-- Reads a digit.  Numbers and weights have 32 bits. -/
def read (r : Reading) (c : Char) : Option Reading := do
  let d ← digit? c
  let sum := r.sum + d * r.weight
  let t := threshold r.bias r.position
  if twoTo 32 ≤ r.place + sum then none
  else if d < t then ({ r with sum := sum } : Reading).putIn
  else
    let weight := r.weight * (36 - t)
    if twoTo 32 ≤ weight then none
    else some { r with sum := sum, weight := weight, position := r.position + 36 }

end Reading

/-- What stands before the last hyphen of a text, if anything does, and what stands behind it. -/
def splitAtHyphen (cs : List Char) : List Char × List Char :=
  let digits := (cs.reverse.takeWhile (· != '-')).reverse
  match cs.take (cs.length - digits.length - 1) with
  | [] => ([], cs)
  | ascii => (ascii, digits)

/-- The label of an ASCII form, none if the form does not end with a number or a number is too
great. -/
def decode? (cs : List Char) : Option (List Char) := do
  let (ascii, digits) := splitAtHyphen cs
  let r ← digits.foldlM Reading.read (Reading.start ascii)
  if r.position = 36 then some r.label else none

end ArchDiagram.Web.Punycode
