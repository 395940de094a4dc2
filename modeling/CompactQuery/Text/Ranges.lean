/-!
# Ranges of code points

A property of characters as the list of the code points that have it.
-/

namespace CompactQuery

/-- Ranges of code points, each from its first to its last, in ascending order. -/
abbrev Ranges := Array (Nat × Nat)

/-- Whether a character lies in one of the ranges. -/
def Ranges.covers (ranges : Ranges) (c : Char) : Bool :=
  ranges.any fun (first, last) => first ≤ c.toNat && c.toNat ≤ last

end CompactQuery
