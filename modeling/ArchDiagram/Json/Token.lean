import ArchDiagram.Json.Basic

/-!
# JSON tokens

Octets are cut into tokens by a machine that takes one octet at a time.  Words and numbers are
collected as far as their octets go and judged when they end; inside a string literal only the
escapes and the control characters are looked at.

* `Token.scan`: the tokens of a sequence of octets.
-/

namespace ArchDiagram

inductive Token where
  | openArray
  | closeArray
  | openObject
  | closeObject
  | colon
  | comma
  | null
  | bool (b : Bool)
  | number (n : Number)
  | string (s : Option String)

namespace Token

/-- What the machine is reading; the octets read so far are reversed. -/
inductive Mode where
  | ground
  | word (read : List UInt8)
  | number (read : List UInt8)
  | literal (read : List UInt8)
  /-- A backslash has been read inside a literal. -/
  | slash (read : List UInt8)
  /-- So many hexadecimal digits of an escape are owed. -/
  | hex (owed : Nat) (read : List UInt8)

/-- The tokens so far, reversed, and what is being read. -/
structure Progress where
  done : List Token
  mode : Mode

def charOf (b : UInt8) : Char :=
  Char.ofNat b.toNat

def isLetter (b : UInt8) : Bool :=
  let n := b.toNat
  (65 ≤ n && n ≤ 90) || (97 ≤ n && n ≤ 122)

def isNumeric (b : UInt8) : Bool :=
  let n := b.toNat
  (48 ≤ n && n ≤ 57) || n == 43 || n == 45 || n == 46 || n == 69 || n == 101

def ofWord? (read : List UInt8) : Option Token :=
  match read.reverse.map charOf with
  | ['n', 'u', 'l', 'l'] => some .null
  | ['t', 'r', 'u', 'e'] => some (.bool true)
  | ['f', 'a', 'l', 's', 'e'] => some (.bool false)
  | _ => none

def ofNumber? (read : List UInt8) : Option Token :=
  (Number.ofChars? (read.reverse.map charOf)).map .number

/-- Starts a token, with the tokens `done` before it. -/
def begin (done : List Token) (b : UInt8) : Option Progress :=
  match b.toNat with
  | 9 | 10 | 13 | 32 => some ⟨done, .ground⟩
  | 91 => some ⟨.openArray :: done, .ground⟩
  | 93 => some ⟨.closeArray :: done, .ground⟩
  | 123 => some ⟨.openObject :: done, .ground⟩
  | 125 => some ⟨.closeObject :: done, .ground⟩
  | 58 => some ⟨.colon :: done, .ground⟩
  | 44 => some ⟨.comma :: done, .ground⟩
  | 34 => some ⟨done, .literal []⟩
  | _ =>
    if isLetter b then some ⟨done, .word [b]⟩
    else if isNumeric b then some ⟨done, .number [b]⟩
    else none

def step (p : Progress) (b : UInt8) : Option Progress :=
  match p.mode with
  | .ground => begin p.done b
  | .word read =>
    if isLetter b then some ⟨p.done, .word (b :: read)⟩
    else do begin ((← ofWord? read) :: p.done) b
  | .number read =>
    if isNumeric b then some ⟨p.done, .number (b :: read)⟩
    else do begin ((← ofNumber? read) :: p.done) b
  | .literal read =>
    if b = 34 then some ⟨.string (Literal.ofOctets? read.reverse) :: p.done, .ground⟩
    else if b = 92 then some ⟨p.done, .slash (b :: read)⟩
    else if b < 32 then none
    else some ⟨p.done, .literal (b :: read)⟩
  | .slash read =>
    if b = 117 then some ⟨p.done, .hex 4 (b :: read)⟩
    else if (Literal.shortEscape? b).isSome then some ⟨p.done, .literal (b :: read)⟩
    else none
  | .hex owed read =>
    if (Literal.hexDigit? b).isSome then
      some ⟨p.done, if owed ≤ 1 then .literal (b :: read) else .hex (owed - 1) (b :: read)⟩
    else none

/-- The tokens once the octets have ended. -/
def finish (p : Progress) : Option (List Token) :=
  match p.mode with
  | .ground => some p.done.reverse
  | .word read => do return ((← ofWord? read) :: p.done).reverse
  | .number read => do return ((← ofNumber? read) :: p.done).reverse
  | _ => none

def scan (bs : List UInt8) : Option (List Token) := do
  finish (← bs.foldlM step ⟨[], .ground⟩)

end Token

end ArchDiagram
