/-!
# Ranges of code points

* `Text.Ranges` — a set of characters by the first and the last code point of every range
* `Text.isAmong` — a character in one of the ranges
-/

namespace Neighborhood.Text

abbrev Ranges := List (Nat × Nat)

def isAmong (ranges : Ranges) (c : Char) : Bool :=
  ranges.any fun (first, last) => first ≤ c.toNat && c.toNat ≤ last

end Neighborhood.Text
