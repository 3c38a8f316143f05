import ArchDiagram.Web.Host

/-!
# Addresses of the web

The address of a request is read the way browsers and their like read it: tabs and line ends are
dropped, backslashes count as slashes, dot segments are resolved, a fragment is cut off, and
characters that may not stand in a path or a query are percent-encoded.

* `Url.parse?`: the address that a text denotes, for the two schemes of the web.
* `Url.target`: the path and the query, as they are sent.
* `Url.isSendable`: whether a request can be sent to an address.
-/

namespace ArchDiagram.Web

open Text

structure Url where
  scheme : String
  host : Host
  /-- The port, unless it is the scheme's own. -/
  port : Option Nat
  /-- The segments of the path. -/
  path : List String
  query : Option String
  fragment : Option String
  deriving DecidableEq

namespace Url

def pathText (u : Url) : String :=
  String.join (u.path.map ("/" ++ ·))

def target (u : Url) : String :=
  match u.query with
  | some q => u.pathText ++ "?" ++ q
  | none => u.pathText

def authority (u : Url) : String :=
  match u.port with
  | some p => u.host.text ++ ":" ++ Decimal.text p
  | none => u.host.text

def text (u : Url) : String :=
  u.scheme ++ "://" ++ u.authority ++ u.target ++
    (match u.fragment with
      | some f => "#" ++ f
      | none => "")

/-- The longest text of an address that requests are sent to. -/
def longestText : Nat := 65534

/-- The characters that may stand in the name of a host and yet in no request. -/
def unsent : List Char :=
  ['"', '\x60', '\x7b', '\x7d']

/-- Whether a request can be sent to an address. -/
def isSendable (u : Url) : Bool :=
  u.text.length ≤ longestText && u.host.text.toList.all fun c => !unsent.contains c

/-! ## Percent-encoding -/

/-- Whether a character is a control character or outside ASCII. -/
def isForeign (c : Char) : Bool :=
  c.toNat < 0x20 || 0x7E < c.toNat

def encodedInPath (c : Char) : Bool :=
  isForeign c || [' ', '"', '#', '<', '>', '?', '\x60', '\x7b', '\x7d'].contains c

def encodedInFragment (c : Char) : Bool :=
  isForeign c || [' ', '"', '<', '>', '\x60'].contains c

def encodedInQuery (c : Char) : Bool :=
  isForeign c || [' ', '"', '#', '<', '>', '\''].contains c

def hexChar (n : Nat) : Char :=
  if n < 10 then Char.ofNat (48 + n) else Char.ofNat (55 + n)

def percentOctet (b : UInt8) : List Char :=
  ['%', hexChar (b.toNat / 16), hexChar (b.toNat % 16)]

/-- A text in which the characters of class `p` are percent-encoded. -/
def percentEncode (p : Char → Bool) (cs : List Char) : List Char :=
  cs.flatMap fun c => if p c then (String.utf8EncodeChar c).flatMap percentOctet else [c]

/-! ## The parts of an address -/

/-- Whether a character separates segments. -/
def isSlash (c : Char) : Bool :=
  c == '/' || c == '\\'

/-- A segment with its percent-encoded dots written out, where it consists of nothing but dots. -/
def dots (segment : List Char) : List Char :=
  replaceAll "%2e".toList ['.'] (segment.map Char.toLower)

def isParent (segment : List Char) : Bool :=
  dots segment == ['.', '.']

def isSelf (segment : List Char) : Bool :=
  dots segment == ['.']

/-- The segments of a path with the dot segments resolved; `done` is reversed.  A dot segment at the
end leaves an empty one. -/
def resolve (done : List (List Char)) : List (List Char) → List (List Char)
  | [] => done.reverse
  | [s] =>
    if isParent s then ([] :: done.tail).reverse
    else if isSelf s then ([] :: done).reverse
    else (s :: done).reverse
  | s :: t :: rest =>
    if isParent s then resolve done.tail (t :: rest)
    else if isSelf s then resolve done (t :: rest)
    else resolve (s :: done) (t :: rest)

/-- The segments of the path in a text that starts with a slash or is empty. -/
def segments (cs : List Char) : List String :=
  (resolve [] (splitBy isSlash (cs.drop 1))).map fun s =>
    String.ofList (percentEncode encodedInPath s)

/-- Splits a text after its last character of class `p`. -/
def afterLast (p : Char → Bool) (cs : List Char) : List Char :=
  (cs.reverse.takeWhile (fun c => !p c)).reverse

def portOf (scheme : String) : Nat :=
  if scheme = "https" then 443 else 80

/-- The port that a text denotes, none for nothing and for the scheme's own. -/
def port? (scheme : String) (cs : List Char) : Option (Option Nat) :=
  if cs.isEmpty then some none
  else do
    let p ← Decimal.read? cs
    if p < 65536 then some (if p = portOf scheme then none else some p) else none

/-- The host and the port in an authority, which may start with a user and a password. -/
def authority? (scheme : String) (cs : List Char) : Option (Host × Option Nat) := do
  let cs := afterLast (· == '@') cs
  let port := afterLast (fun c => c == ':' || c == ']') cs
  let front := cs.take (cs.length - port.length)
  let (host, port) := if front.getLast? == some ':' then (front.dropLast, port) else (cs, [])
  return (← Host.read? host, ← port? scheme port)

def scheme? (cs : List Char) : Option (String × List Char) :=
  let front := cs.takeWhile fun c => c.isAlphanum || c == '+' || c == '-' || c == '.'
  match front, cs.drop front.length with
  | c :: _, ':' :: rest =>
    if c.isAlpha then some (String.ofList (front.map Char.toLower), rest) else none
  | _, _ => none

/-- Whether a character is dropped at the ends of an address. -/
def isEdge (c : Char) : Bool :=
  c.toNat ≤ 0x20

def isDropped (c : Char) : Bool :=
  c == '\t' || c == '\n' || c == '\r'

/-- What follows the first character of a text, none for an empty one. -/
def afterFirst : List Char → Option (List Char)
  | [] => none
  | _ :: cs => some cs

/-- The address that a text denotes, if it is one of the web. -/
def parse? (s : String) : Option Url := do
  let cs := (trimBy isEdge s.toList).filter fun c => !isDropped c
  let (scheme, rest) ← scheme? cs
  if scheme = "http" ∨ scheme = "https" then
    let rest := rest.dropWhile isSlash
    let shown := rest.takeWhile (· != '#')
    let front := shown.takeWhile fun c => !isSlash c && c != '?'
    let (host, port) ← authority? scheme front
    let afterHost := shown.drop front.length
    let path := afterHost.takeWhile (· != '?')
    let query := (afterFirst (afterHost.drop path.length)).map fun q =>
      String.ofList (percentEncode encodedInQuery q)
    let fragment := (afterFirst (rest.drop shown.length)).map fun f =>
      String.ofList (percentEncode encodedInFragment f)
    some ⟨scheme, host, port, segments path, query, fragment⟩
  else none

end Url

end ArchDiagram.Web
