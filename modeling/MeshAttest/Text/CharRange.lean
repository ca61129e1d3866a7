/-!
# Ranges of characters

Classes of characters are given by the inclusive ranges of their code points.
-/

set_option autoImplicit false

namespace MeshAttest.Text

/-- Whether a code point lies in one of the ranges. -/
def codeInRanges (ranges : List (Nat × Nat)) (code : Nat) : Bool :=
  ranges.any fun range ↦ range.1 ≤ code && code ≤ range.2

/-- Whether the code point of a character lies in one of the ranges. -/
def inRanges (ranges : List (Nat × Nat)) (c : Char) : Bool := codeInRanges ranges c.toNat

end MeshAttest.Text
