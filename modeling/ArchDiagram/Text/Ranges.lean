/-!
# Tables of characters

A class of characters is given by a table of closed ranges of their numbers.
-/

namespace ArchDiagram.Text

/-- Whether a number lies in one of the closed ranges of a table. -/
def inRanges (table : List (Nat × Nat)) (n : Nat) : Bool :=
  table.any fun (first, last) => first ≤ n && n ≤ last

end ArchDiagram.Text
