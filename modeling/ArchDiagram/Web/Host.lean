import ArchDiagram.Text.Utf8
import ArchDiagram.Web.Address
import ArchDiagram.Web.Name.Label

/-!
# Hosts in addresses of the web

A host is a name, a number of the old kind, which may be written in up to four parts of any usual
base, or a number in groups between brackets.  Octets may be percent-encoded.  A name whose last
part is a number must be a number as a whole.

* `Host.read?`: the host that a text denotes.
* `Host.text`: a host as it is sent.
-/

namespace ArchDiagram.Web

open Text

inductive Host where
  /-- A name in ASCII. -/
  | name (s : String)
  /-- A number of 32 bits. -/
  | number (n : Nat)
  /-- Eight numbers of 16 bits. -/
  | groups (ns : List Nat)
  deriving DecidableEq

namespace Host

/-! ## Reading -/

/-- The octets of a text in which some are percent-encoded; `done` is reversed. -/
def percentDecode (done : List UInt8) : List Char → List UInt8
  | '%' :: a :: b :: cs =>
    match Address.hexDigit? a, Address.hexDigit? b with
    | some x, some y => percentDecode (UInt8.ofNat (x * 16 + y) :: done) cs
    | _, _ => percentDecode ((String.utf8EncodeChar '%').reverse ++ done) (a :: b :: cs)
  | c :: cs => percentDecode ((String.utf8EncodeChar c).reverse ++ done) cs
  | [] => done.reverse

/-- The number that digits in a base denote, none if a character is no digit of it. -/
def inBase? (base : Nat) (cs : List Char) : Option Nat :=
  cs.foldl (fun n c => do
    let d ← Address.hexDigit? c
    if d < base then some ((← n) * base + d) else none) (some 0)

/-- The number that a part denotes, in base sixteen after `0x` and in base eight after another
zero. -/
def part? : List Char → Option Nat
  | [] => none
  | '0' :: 'x' :: ds | '0' :: 'X' :: ds => inBase? 16 ds
  | '0' :: d :: ds => inBase? 8 (d :: ds)
  | ds => inBase? 10 ds

/-- The parts of a name, without an empty last one. -/
def parts (cs : List Char) : List (List Char) :=
  let ps := splitBy (· == '.') cs
  if ps.getLast? == some [] then ps.dropLast else ps

def endsInNumber (cs : List Char) : Bool :=
  match (parts cs).getLast? with
  | some last => (!last.isEmpty && last.all Char.isDigit) || (part? last).isSome
  | none => false

/-- The number in at most four parts, of which the last fills what the others leave. -/
def number? (cs : List Char) : Option Nat := do
  let ns ← (parts cs).mapM part?
  let last ← ns.getLast?
  let front := ns.dropLast
  let room := Decimal.twoTo (8 * (4 - front.length))
  if front.length < 4 ∧ front.all (· < 256) ∧ last < room then
    some (front.foldl (fun n d => 256 * n + d) 0 * room + last)
  else none

/-- The name or the number in parts that a text denotes. -/
def named? (cs : List Char) : Option Host := do
  let name ← Name.ascii? (Utf8.decodeLossy (percentDecode [] cs)).toList
  if name.isEmpty then none
  else if endsInNumber name then (number? name).map number
  else some (.name (String.ofList name))

def read? (cs : List Char) : Option Host :=
  match cs with
  | '[' :: r =>
    if r.getLast? == some ']' then (Address.eightGroups? r.dropLast).map groups else none
  | _ => named? cs

/-! ## Writing -/

/-- The first longest run of zeros: where it starts and how long it is. -/
def longestZeros (ns : List Nat) : Nat × Nat :=
  (List.range ns.length).foldl (fun best i =>
    let length := ((ns.drop i).takeWhile (· == 0)).length
    if best.2 < length then (i, length) else best) (0, 0)

/-- Numbers in hexadecimal digits, with colons between them. -/
def colons (ns : List Nat) : String :=
  ":".intercalate (ns.map fun n => String.ofList (Nat.toDigits 16 n))

/-- Eight groups, of which the longest run of two or more zeros is left out. -/
def groupsText (ns : List Nat) : String :=
  let (start, length) := longestZeros ns
  if length < 2 then colons ns
  else colons (ns.take start) ++ "::" ++ colons (ns.drop (start + length))

/-- A number of 32 bits as four decimal octets. -/
def octetsText (n : Nat) : String :=
  ".".intercalate ([24, 16, 8, 0].map fun k => Decimal.text (n / Decimal.twoTo k % 256))

def text : Host → String
  | name s => s
  | number n => octetsText n
  | groups ns => "[" ++ groupsText ns ++ "]"

end Host

end ArchDiagram.Web
