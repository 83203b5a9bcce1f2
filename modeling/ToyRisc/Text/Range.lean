/-
Classes of characters given by ranges of code points.
-/
namespace ToyRisc

/-- Whether some range, both ends included, holds a character. -/
def inRanges (ranges : Array (Nat × Nat)) (c : Char) : Bool :=
  ranges.any fun range => range.1 ≤ c.toNat && c.toNat ≤ range.2

end ToyRisc
