/-!
# Ranges of code points

A property of characters is given by the closed ranges of code points that have it.
-/

namespace GoldenRun.Text

/-- Closed ranges of code points, each by its least and its greatest member. -/
abbrev Ranges := List (Nat × Nat)

def Ranges.contains (ranges : Ranges) (c : Char) : Bool :=
  ranges.any fun (least, greatest) => least ≤ c.toNat && c.toNat ≤ greatest

end GoldenRun.Text
