/-!
# Tables of character ranges

A property of characters is given by the ranges of code points that have it, in ascending order
and as pairs of a first and a last code point.
-/

namespace WikiMarkup.Unicode

/-- Ranges of code points, each with its first and its last member. -/
abbrev RangeTable := List (Nat × Nat)

/-- A code point lies in one of the ranges. -/
def RangeTable.contains (table : RangeTable) (n : Nat) : Bool :=
  table.any fun range => range.1 ≤ n && n ≤ range.2

/-- A run of code points that a mapping moves alike: the first and the last one, the distance from
one to the next, and the image of the first. -/
structure Run where
  /-- The first code point of the run. -/
  first : Nat
  /-- The last code point of the run. -/
  last : Nat
  /-- The distance between neighbours, 1 or 2. -/
  stride : Nat
  /-- What the first code point becomes. -/
  image : Nat

/-- The image of a code point under the first run that holds it. -/
def Run.apply? (runs : List Run) (n : Nat) : Option Nat :=
  (runs.find? fun r => r.first ≤ n && n ≤ r.last && (n - r.first) % r.stride = 0).map
    fun r => r.image + (n - r.first)

end WikiMarkup.Unicode
