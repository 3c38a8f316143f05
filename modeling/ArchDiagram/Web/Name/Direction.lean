import ArchDiagram.Text.Mark

/-!
# Names in which both directions of writing meet

A name with characters that are written leftward can be mistaken when numbers or letters of the
other direction surround them.  So all labels of such a name have to keep to one direction: the
first character is a letter, which says which; the last one, marks apart, is a letter of that
direction or a digit; and between them stand no letters of the other direction.  A leftward label
has digits of one kind at most.

The tables are those of Unicode 17.

* `Direction.of`: the direction of a character.
* `keepsDirection`: whether a label keeps to one direction.
-/

namespace ArchDiagram.Web.Name

open Text

inductive Direction where
  | rightward
  | leftward
  /-- An Arabic digit. -/
  | arabic
  /-- Any other digit. -/
  | european
  /-- A mark, which goes along with the character before it. -/
  | mark
  /-- A sign that goes along with its neighbours. -/
  | neutral
  deriving DecidableEq

namespace Direction

/-- Marks that do not go along with the character before them. -/
def firm : List Nat :=
  [0xCBF, 0xCC6, 0x11A07, 0x11A08, 0x11C3F]

def arabicDigits : List (Nat × Nat) :=
  [(0x660, 0x669), (0x66B, 0x66C), (0x10D30, 0x10D49), (0x10E60, 0x10E7E)]

def europeanDigits : List (Nat × Nat) :=
  [(0x30, 0x39), (0x6F0, 0x6F9), (0x102E1, 0x102FB)]

/-- Ranges of signs that go along with their neighbours. -/
def neutrals : List (Nat × Nat) :=
  [(0x0, 0x8), (0xE, 0x1B), (0x21, 0x2F), (0x3A, 0x60), (0x7B, 0xD7), (0xF7, 0xF7), (0x2B9, 0x2BA),
   (0x2C2, 0x2CF), (0x2D2, 0x2ED), (0x2EF, 0x2FF), (0x375, 0x375), (0x3F6, 0x3F6), (0x58A, 0x58F),
   (0x606, 0x607), (0x609, 0x60A), (0x60C, 0x60C), (0x60E, 0x60F), (0x66A, 0x66A), (0x6DE, 0x6DE),
   (0x6E9, 0x6E9), (0x7F6, 0x7F9), (0x9F2, 0x9F3), (0x9FB, 0x9FB), (0xAF1, 0xAF1), (0xBF3, 0xBFA),
   (0xC78, 0xC7E), (0xE3F, 0xE3F), (0xF3A, 0xF3D), (0x1390, 0x1399), (0x1400, 0x1400),
   (0x169B, 0x169C), (0x17DB, 0x17DB), (0x17F0, 0x180A), (0x1940, 0x1945), (0x19DE, 0x19FF),
   (0x200C, 0x214D), (0x218A, 0x2335), (0x237B, 0x2394), (0x2396, 0x26AB), (0x26AD, 0x27FF),
   (0x2900, 0x2BFF), (0x2CE5, 0x2CEA), (0x2CF9, 0x2CFF), (0x2E00, 0x3004), (0x3008, 0x3020),
   (0x3030, 0x3030), (0x3037, 0x3037), (0x303D, 0x303F), (0x30A0, 0x30A0), (0x30FB, 0x30FB),
   (0x31C0, 0x31E5), (0x4DC0, 0x4DFF), (0xA490, 0xA4C6), (0xA60D, 0xA60F), (0xA673, 0xA67F),
   (0xA700, 0xA721), (0xA788, 0xA788), (0xA828, 0xA82B), (0xA838, 0xA839), (0xA874, 0xA877),
   (0xAB6A, 0xAB6B), (0xFBC3, 0xFE46), (0x10101, 0x10101), (0x10140, 0x1018C), (0x10190, 0x101A0),
   (0x1091F, 0x1091F), (0x10B39, 0x10B3F), (0x10D6E, 0x10D6E), (0x10ED0, 0x10ED8),
   (0x11052, 0x11065), (0x11660, 0x1166C), (0x11FD5, 0x11FF1), (0x16FE2, 0x16FE2),
   (0x1CC00, 0x1CEF0), (0x1D1E9, 0x1D245), (0x1D300, 0x1D356), (0x1E2FF, 0x1E2FF),
   (0x1EEF0, 0x1F12F), (0x1F16D, 0x1F16F), (0x1F1AD, 0x1F1AD), (0x1F260, 0x1FBFA)]

/-- Ranges in which all other characters are leftward. -/
def leftwardAreas : List (Nat × Nat) :=
  [(0x590, 0x8FF), (0xFB1D, 0xFDFF), (0xFE70, 0xFEFE), (0x10800, 0x10FFF), (0x1E800, 0x1EFFF)]

def of (c : Char) : Direction :=
  let n := c.toNat
  if isNonspacing c && !firm.contains n then mark
  else if inRanges arabicDigits n then arabic
  else if inRanges europeanDigits n then european
  else if inRanges neutrals n then neutral
  else if inRanges leftwardAreas n then leftward
  else rightward

/-- Whether a character makes its name one in which directions meet. -/
def isLeftward (d : Direction) : Bool :=
  d == leftward || d == arabic

end Direction

open Direction

def hasLeftward (label : List Char) : Bool :=
  label.any fun c => (Direction.of c).isLeftward

/-- Whether the last of some directions, marks apart, is one of `ends`. -/
def endsIn (ends ds : List Direction) : Bool :=
  match ds.reverse.dropWhile (· == mark) with
  | d :: _ => ends.contains d
  | [] => false

/-- Whether a label keeps to the direction of its first character. -/
def keepsDirection (label : List Char) : Bool :=
  let ds := label.map Direction.of
  match ds.head? with
  | none => true
  | some rightward =>
    !ds.contains leftward && !ds.contains arabic && endsIn [rightward, european] ds
  | some leftward =>
    !ds.contains rightward && !(ds.contains arabic && ds.contains european) &&
      endsIn [leftward, arabic, european] ds
  | some _ => false

end ArchDiagram.Web.Name
