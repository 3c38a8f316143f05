/-!
# Powers

The powers of two, which bound the numbers of so many bits, and those of ten, which bound the
numbers of so many digits.

* `twoTo`, `tenTo`: the powers.
-/

namespace ArchDiagram.Decimal

def twoTo (n : Nat) : Nat :=
  Nat.pow 2 n

def tenTo (n : Nat) : Nat :=
  Nat.pow 10 n

end ArchDiagram.Decimal
