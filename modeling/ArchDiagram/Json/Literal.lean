import ArchDiagram.Text.Utf8

/-!
# JSON string literals

What stands between the quotes of a string literal is a sequence of octets with escapes.  It denotes
a text unless an escape names half a surrogate pair or the octets are not UTF-8.

* `ofOctets?`: the text that the inside of a literal denotes.
* `escape`: the inside of the literal that is written for a text.
-/

namespace ArchDiagram.Literal

def hexDigit? (b : UInt8) : Option Nat :=
  let n := b.toNat
  if 48 ≤ n ∧ n ≤ 57 then some (n - 48)
  else if 65 ≤ n ∧ n ≤ 70 then some (n - 55)
  else if 97 ≤ n ∧ n ≤ 102 then some (n - 87)
  else none

/-- What the octet after a backslash stands for, `u` apart. -/
def shortEscape? (b : UInt8) : Option UInt8 :=
  match b.toNat with
  | 34 => some 34
  | 92 => some 92
  | 47 => some 47
  | 98 => some 8
  | 102 => some 12
  | 110 => some 10
  | 114 => some 13
  | 116 => some 9
  | _ => none

/-- Where a reader stands inside an escape. -/
inductive Escape where
  | outside
  | slash
  /-- So many hexadecimal digits are owed, and the others make this number. -/
  | hex (owed code : Nat)
  deriving DecidableEq

/-- What has been read: the octets of the text, reversed, the escape that is open, and the first
half of a surrogate pair whose second half must follow. -/
structure Progress where
  done : List UInt8
  escape : Escape
  half : Option Nat

def Progress.addChar (p : Progress) (n : Nat) : Progress :=
  ⟨(String.utf8EncodeChar (Char.ofNat n)).reverse ++ p.done, .outside, none⟩

/-- Adds what four hexadecimal digits name. -/
def Progress.addUnit (p : Progress) (n : Nat) : Option Progress :=
  let second := decide (0xDC00 ≤ n ∧ n ≤ 0xDFFF)
  match p.half with
  | some h => if second then some (p.addChar (0x10000 + (h - 0xD800) * 1024 + (n - 0xDC00))) else none
  | none =>
    if 0xD800 ≤ n ∧ n ≤ 0xDBFF then some ⟨p.done, .outside, some n⟩
    else if second then none
    else some (p.addChar n)

def step (p : Progress) (b : UInt8) : Option Progress :=
  match p.escape with
  | .outside =>
    if b = 92 then some { p with escape := .slash }
    else if p.half.isSome then none
    else some { p with done := b :: p.done }
  | .slash =>
    if b = 117 then some { p with escape := .hex 4 0 }
    else if p.half.isSome then none
    else (shortEscape? b).map fun c => ⟨c :: p.done, .outside, none⟩
  | .hex owed code => do
    let d ← hexDigit? b
    if owed ≤ 1 then p.addUnit (code * 16 + d)
    else some { p with escape := .hex (owed - 1) (code * 16 + d) }

/-- The text that the inside of a literal denotes, if it denotes one. -/
def ofOctets? (bs : List UInt8) : Option String := do
  let p ← bs.foldlM step ⟨[], .outside, none⟩
  if p.escape = .outside ∧ p.half = none then Utf8.decode? p.done.reverse else none

/-- How a character is written inside a literal: the quote, the backslash and the control characters
are escaped, five of the latter by a letter. -/
def escapeChar (c : Char) : List Char :=
  match c.toNat with
  | 34 => ['\\', '"']
  | 92 => ['\\', '\\']
  | 8 => ['\\', 'b']
  | 9 => ['\\', 't']
  | 10 => ['\\', 'n']
  | 12 => ['\\', 'f']
  | 13 => ['\\', 'r']
  | n => if n < 32 then ['\\', 'u', '0', '0', Nat.digitChar (n / 16), Nat.digitChar (n % 16)] else [c]

/-- The literal of a text, with its quotes. -/
def escape (s : String) : List Char :=
  '"' :: (s.toList.flatMap escapeChar ++ ['"'])

end ArchDiagram.Literal
