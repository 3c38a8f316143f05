import ArchDiagram.Text.Blank

/-!
# UTF-8

`encode` writes a text as octets.  `units` reads octets: it answers a character for each
well-formed sequence and `none` for each broken part, where a broken part is the longest start of a
well-formed sequence at that place, or one octet that starts none.  Reading strictly refuses broken
parts, reading leniently writes U+FFFD for each.

* `decode?`: strict reading.
* `decodeLossy`: lenient reading.
-/

namespace ArchDiagram.Utf8

def encode (s : String) : List UInt8 :=
  s.toList.flatMap String.utf8EncodeChar

/-- A character of which some octets are still owed. -/
structure Pending where
  /-- The bits read so far. -/
  code : Nat
  /-- How many octets are owed. -/
  owed : Nat
  /-- The least next octet. -/
  low : Nat
  /-- The greatest next octet. -/
  high : Nat

/-- How an octet between two characters is taken. -/
inductive Start where
  | char (c : Char)
  | pending (p : Pending)
  | broken

/-- A sequence starts with an ASCII octet or with one that tells how many follow; the first octet
also bounds the second, so that no character has two forms and no half surrogate has one. -/
def start (b : Nat) : Start :=
  if b < 0x80 then .char (Char.ofNat b)
  else if b < 0xC2 then .broken
  else if b < 0xE0 then .pending ⟨b - 0xC0, 1, 0x80, 0xBF⟩
  else if b = 0xE0 then .pending ⟨0, 2, 0xA0, 0xBF⟩
  else if b = 0xED then .pending ⟨0xD, 2, 0x80, 0x9F⟩
  else if b < 0xF0 then .pending ⟨b - 0xE0, 2, 0x80, 0xBF⟩
  else if b = 0xF0 then .pending ⟨0, 3, 0x90, 0xBF⟩
  else if b < 0xF4 then .pending ⟨b - 0xF0, 3, 0x80, 0xBF⟩
  else if b = 0xF4 then .pending ⟨4, 3, 0x80, 0x8F⟩
  else .broken

/-- The state after an octet between two characters; `done` is reversed. -/
def begin (done : List (Option Char)) (b : Nat) : List (Option Char) × Option Pending :=
  match start b with
  | .char c => (some c :: done, none)
  | .pending p => (done, some p)
  | .broken => (none :: done, none)

/-- The state after one more octet.  An octet that does not continue a character breaks it off and
starts anew. -/
def step (s : List (Option Char) × Option Pending) (b : UInt8) :
    List (Option Char) × Option Pending :=
  let n := b.toNat
  match s with
  | (done, none) => begin done n
  | (done, some p) =>
    if p.low ≤ n ∧ n ≤ p.high then
      let code := p.code * 64 + (n - 0x80)
      if p.owed ≤ 1 then (some (Char.ofNat code) :: done, none)
      else (done, some ⟨code, p.owed - 1, 0x80, 0xBF⟩)
    else begin (none :: done) n

/-- The characters and broken parts of a sequence of octets. -/
def units (bs : List UInt8) : List (Option Char) :=
  match bs.foldl step ([], none) with
  | (done, none) => done.reverse
  | (done, some _) => (none :: done).reverse

def decode? (bs : List UInt8) : Option String :=
  ((units bs).mapM id).map String.ofList

/-- The text of any octets, with U+FFFD for each broken part. -/
def decodeLossy (bs : List UInt8) : String :=
  String.ofList ((units bs).map (·.getD '\uFFFD'))

/-- Where octets stop being well-formed: the number of octets before the first broken part, and the
length of that part, or no length if the octets end inside it. -/
structure Flaw where
  validUpTo : Nat
  length : Option Nat

/-- Looks for the first broken part; `read` octets precede, and `held` of them belong to the
character `p`. -/
def flawLoop (read held : Nat) (p : Option Pending) : List UInt8 → Option Flaw
  | [] => if p.isSome then some ⟨read, none⟩ else none
  | b :: bs =>
    let n := b.toNat
    match p with
    | none =>
      match start n with
      | .char _ => flawLoop (read + 1) 0 none bs
      | .pending q => flawLoop read 1 (some q) bs
      | .broken => some ⟨read, some 1⟩
    | some q =>
      if q.low ≤ n ∧ n ≤ q.high then
        if q.owed ≤ 1 then flawLoop (read + held + 1) 0 none bs
        else flawLoop read (held + 1) (some ⟨0, q.owed - 1, 0x80, 0xBF⟩) bs
      else some ⟨read, some held⟩

/-- The first flaw of a sequence of octets, if any. -/
def flaw? (bs : List UInt8) : Option Flaw :=
  flawLoop 0 0 none bs

def Flaw.message (f : Flaw) : String :=
  match f.length with
  | some n => s!"invalid utf-8 sequence of {n} bytes from index {f.validUpTo}"
  | none => s!"incomplete utf-8 byte sequence from index {f.validUpTo}"

end ArchDiagram.Utf8
