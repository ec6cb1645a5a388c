/-
Sets of code points kept as ascending lists of closed ranges. The search stops at the first range
that begins above the code point it looks for, so a small code point is decided by the first entries
of a long table.
-/

namespace CatalogReader.Text

/-- Whether a code point lies in one of the ranges, which are listed in ascending order. -/
def inRanges (code : Nat) : List (Nat × Nat) → Bool
  | [] => false
  | (first, last) :: rest =>
    if code < first then false else if code ≤ last then true else inRanges code rest

end CatalogReader.Text
