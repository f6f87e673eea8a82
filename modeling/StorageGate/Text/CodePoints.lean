/-!
# Sets of characters

A property of characters is a list of closed ranges of code points, ascending and apart.
-/
namespace StorageGate

/-- Whether a character lies in one of the ranges. -/
def inRanges (ranges : List (Nat × Nat)) (c : Char) : Bool :=
  ranges.any fun r => r.1 ≤ c.toNat && c.toNat ≤ r.2

end StorageGate
