import ArchDiagram.Decimal.Digits
import ArchDiagram.Decimal.Power
import ArchDiagram.Text.Quoted
import ArchDiagram.Text.Scan

/-!
# Addresses to listen at

An address to listen at is a numeric one: four decimal octets without leading zeros, or an address
in hexadecimal groups between brackets, followed by a port.

* `Address.isValid`: whether a text is such an address.
-/

namespace ArchDiagram.Address

open Text

def isNumberBelow (bound : Nat) (cs : List Char) : Bool :=
  (Decimal.read? cs).any (· < bound)

/-- Whether a text is an octet: at most three digits, no leading zero. -/
def isOctet (cs : List Char) : Bool :=
  cs.length ≤ 3 && isNumberBelow 256 cs && (cs.length == 1 || cs.head? != some '0')

def isFourOctets (cs : List Char) : Bool :=
  let parts := splitBy (· == '.') cs
  parts.length == 4 && parts.all isOctet

def hexDigit? (c : Char) : Option Nat :=
  if c.isDigit then some (c.toNat - 48)
  else if 'a' ≤ c ∧ c ≤ 'f' then some (c.toNat - 87)
  else if 'A' ≤ c ∧ c ≤ 'F' then some (c.toNat - 55)
  else none

/-- The number of a group of one to four hexadecimal digits. -/
def group? (cs : List Char) : Option Nat :=
  if cs.isEmpty ∨ 4 < cs.length then none
  else (cs.mapM hexDigit?).map fun ds => ds.foldl (fun n d => 16 * n + d) 0

/-- The two groups that an address of four octets counts as. -/
def octetGroups? (cs : List Char) : Option (List Nat) :=
  if isFourOctets cs then
    match (splitBy (· == '.') cs).map fun octet => Decimal.read? octet with
    | [some a, some b, some c, some d] => some [256 * a + b, 256 * c + d]
    | _ => none
  else none

/-- The groups of a text with colons between them.  An address of four octets may stand for the last
two. -/
def groups? (cs : List Char) : Option (List Nat) :=
  if cs.isEmpty then some []
  else
    let parts := splitBy (· == ':') cs
    match parts.mapM group? with
    | some ns => some ns
    | none => do
      let octets ← octetGroups? (parts.getLast?.getD [])
      return (← parts.dropLast.mapM group?) ++ octets

/-- The eight groups of an address, in which one run of zeros may be left out. -/
def eightGroups? (cs : List Char) : Option (List Nat) :=
  match breakAt? [':', ':'] cs with
  | none => do
    let ns ← groups? cs
    if ns.length = 8 then some ns else none
  | some (front, rest) => do
    let a ← if front.isEmpty then some [] else (splitBy (· == ':') front).mapM group?
    let b ← groups? (rest.drop 2)
    if a.length + b.length ≤ 7 then
      some (a ++ List.replicate (8 - a.length - b.length) 0 ++ b)
    else none

def isPort : List Char → Bool
  | ':' :: cs => isNumberBelow 65536 cs
  | _ => false

/-- Whether a text is what stands between brackets: eight groups and perhaps the number of a
zone. -/
def isBracketed (cs : List Char) : Bool :=
  match breakAt? ['%'] cs with
  | none => (eightGroups? cs).isSome
  | some (front, zone) =>
    (eightGroups? front).isSome && isNumberBelow (Decimal.twoTo 32) (zone.drop 1)

def isValid (s : String) : Bool :=
  match s.toList with
  | '[' :: cs =>
    match breakAt? [']'] cs with
    | some (front, rest) => isBracketed front && isPort (rest.drop 1)
    | none => false
  | cs =>
    match breakAt? [':'] cs with
    | some (front, port) => isFourOctets front && isPort port
    | none => false

def faultMessage (s : String) : String :=
  "invalid listen address " ++ quoted s

def takenMessage : String :=
  "server io error: Address already in use (os error 98)"

end ArchDiagram.Address
