import ArchDiagram.Text.Lowercase
import ArchDiagram.Text.Visible
import ArchDiagram.Web.Name.Images

/-!
# What a name is read as

A name is read character by character.  Variants of other characters are read as these, capitals as
small letters, some characters are left out, and some stand in no name.  Small letters of Cherokee
are the variants there, so its capitals stay.

* `mapped?`: what a character is read as.
* `isSettled`: whether a character is read as itself.
-/

namespace ArchDiagram.Web.Name

open Text

/-- Ranges of characters that a name leaves out. -/
def ignored : List (Nat × Nat) :=
  [(0xAD, 0xAD), (0x34F, 0x34F), (0x115F, 0x1160), (0x17B4, 0x17B5), (0x180B, 0x180F),
   (0x200B, 0x200B), (0x2060, 0x2064), (0x206A, 0x206F), (0x3164, 0x3164), (0xFE00, 0xFE0F),
   (0xFEFF, 0xFEFF), (0xFFA0, 0xFFA0), (0x1BCA0, 0x1BCA3), (0x1D173, 0x1D17A), (0xE0100, 0xE01EF)]

/-- Ranges of characters with a glyph that stand in no name. -/
def excluded : List (Nat × Nat) :=
  [(0x2024, 0x2026), (0x2488, 0x249B), (0x2FF0, 0x2FFF), (0x31EF, 0x31EF), (0x33C2, 0x33C2),
   (0x33C7, 0x33C7), (0x33D8, 0x33D8), (0xFE12, 0xFE12), (0xFE19, 0xFE19), (0xFE30, 0xFE30),
   (0xFE52, 0xFE52), (0xFFFC, 0xFFFD), (0x1F100, 0x1F100)]

/-- Whether a character joins its neighbours, or keeps them apart, without a glyph of its own. -/
def isJoiner (c : Char) : Bool :=
  c.toNat == 0x200C || c.toNat == 0x200D

def isCherokeeCapital (c : Char) : Bool :=
  0x13A0 ≤ c.toNat && c.toNat ≤ 0x13F5

/-- What a character of a name is read as, none if it stands in no name. -/
def mapped? (c : Char) : Option (List Char) :=
  if c.toNat < 0x80 then some (lowerChar c)
  else
    match image? c with
    | some cs => some cs
    | none =>
      if inRanges ignored c.toNat then some []
      else if isJoiner c || isCherokeeCapital c then some [c]
      else if isGlyphless c || inRanges excluded c.toNat then none
      else some (lowerChar c)

/-- Whether a name reads a character as itself. -/
def isSettled (c : Char) : Bool :=
  mapped? c == some [c]

end ArchDiagram.Web.Name
