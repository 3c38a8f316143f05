import ArchDiagram.Text.Blank
import ArchDiagram.Web.Name.Direction
import ArchDiagram.Web.Name.Joining
import ArchDiagram.Web.Name.Punycode

/-!
# Names of hosts

A name consists of labels with dots between them.  It is sent in ASCII: characters are read as what
they are variants of, composed, and labels with characters outside ASCII are written in Punycode
behind the mark `xn--`.  A label that carries the mark already is read first, and it must be what
the mark promises.  Names that could be mistaken for others have no ASCII form.

* `ascii?`: the form of a name in which it is sent.
-/

namespace ArchDiagram.Web.Name

open Text

def isAscii (c : Char) : Bool :=
  c.toNat < 0x80

/-- The visible characters of ASCII that stand in no name. -/
def reserved : List Char :=
  ['%', '#', '/', ':', '<', '>', '?', '@', '[', '\\', ']', '^', '|']

/-- Whether a character may stand in a name, as far as ASCII is concerned. -/
def isAllowed (c : Char) : Bool :=
  0x20 < c.toNat && c.toNat ≠ 0x7F && !reserved.contains c

def mark : List Char :=
  "xn--".toList

/-- The most characters of a label that is written in Punycode. -/
def longestWritten : Nat := 1000

/-- The most characters of a label that is read from Punycode, the mark apart. -/
def longestRead : Nat := 2000

/-- The label that Punycode denotes.  It has a character outside ASCII, and it is what it would be
read as. -/
def unmarked? (cs : List Char) : Option (List Char) := do
  if longestRead < cs.length ∨ !cs.all isAscii then none
  else
    let label ← Punycode.decode? cs
    if !label.all isAscii && label.all (fun c => isSettled c && isAllowed c && c != '.') &&
        composed label == label then some label
    else none

/-- Whether a label starts with no mark, its joiners are allowed and it is not too long. -/
def isSound (label : List Char) : Bool :=
  !label.head?.any isMark && joinersFit label &&
    (label.all isAscii || label.length ≤ longestWritten)

/-- A sound label, read from Punycode if it carries the mark. -/
def label? (cs : List Char) : Option (List Char) := do
  let label ← match dropFront? mark cs with
    | some rest => unmarked? rest
    | none => some cs
  if isSound label then some label else none

def sentLabel (label : List Char) : List Char :=
  if label.all isAscii then label else mark ++ Punycode.encode label

def labels? (name : List Char) : Option (List (List Char)) := do
  let read := composed (← name.mapM mapped?).flatten
  if read.all isAllowed then
    let labels ← (splitBy (· == '.') read).mapM label?
    if labels.any hasLeftward && !labels.all keepsDirection then none else some labels
  else none

/-- The form of a name in which it is sent, none if it has no such form. -/
def ascii? (name : List Char) : Option (List Char) :=
  (labels? name).map fun labels => ['.'].intercalate (labels.map sentLabel)

end ArchDiagram.Web.Name
