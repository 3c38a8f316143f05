/-!
# White space

The characters that count as blank are those of the Unicode property `White_Space`.  A text is
trimmed by dropping the blank characters at both ends, and its words are its longest pieces
without a blank.

* `trimBy`: drops characters of a class at both ends.
* `trim`: `trimBy isBlank` on a `String`.
* `words`: the pieces between blanks.
* `lines`: the pieces between line feeds, without an empty last one.
-/

namespace ArchDiagram.Text

/-- The characters of the Unicode property `White_Space`. -/
def isBlank (c : Char) : Bool :=
  let n := c.toNat
  (9 ≤ n && n ≤ 13) || n == 32 || n == 0x85 || n == 0xA0 || n == 0x1680 ||
    (0x2000 ≤ n && n ≤ 0x200A) || n == 0x2028 || n == 0x2029 || n == 0x202F || n == 0x205F ||
    n == 0x3000

def trimBy (p : Char → Bool) (cs : List Char) : List Char :=
  ((cs.dropWhile p).reverse.dropWhile p).reverse

def trim (s : String) : String :=
  String.ofList (trimBy isBlank s.toList)

def isAllBlank (s : String) : Bool :=
  s.toList.all isBlank

/-- The pieces between the characters of class `p`; `piece` is the piece being read and `done` the
pieces before it, both reversed. -/
def splitLoop (p : Char → Bool) (piece : List Char) (done : List (List Char)) :
    List Char → List (List Char)
  | [] => (piece.reverse :: done).reverse
  | c :: cs => if p c then splitLoop p [] (piece.reverse :: done) cs
      else splitLoop p (c :: piece) done cs

/-- The pieces between the characters of class `p`, empty ones included. -/
def splitBy (p : Char → Bool) (cs : List Char) : List (List Char) :=
  splitLoop p [] [] cs

/-- The longest pieces of a text that hold no blank. -/
def words (s : String) : List String :=
  ((splitBy isBlank s.toList).filter (fun w => !w.isEmpty)).map String.ofList

/-- The lines of a text; a line feed at the end opens no further line. -/
def lines (cs : List Char) : List (List Char) :=
  let pieces := splitBy (· == '\n') cs
  if pieces.getLast? == some [] then pieces.dropLast else pieces

/-- What follows `front` in a text that starts with it. -/
def dropFront? : List Char → List Char → Option (List Char)
  | [], cs => some cs
  | _ :: _, [] => none
  | f :: front, c :: cs => if f = c then dropFront? front cs else none

end ArchDiagram.Text
