/-
Sets of characters.

* `Ranges` — a set of characters, given by the ranges of code points that it is made of;
* `Ranges.contains` — whether a character is in a set.
-/

namespace RowScope

/-- A set of characters: the first and the last code point of each of its ranges. -/
structure Ranges where
  bounds : List (Nat × Nat)

def Ranges.contains (r : Ranges) (c : Char) : Bool :=
  r.bounds.any fun (first, last) => first ≤ c.toNat && c.toNat ≤ last

end RowScope
