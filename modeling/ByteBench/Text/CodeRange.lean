/-!
# Sets of code points

A set of characters of the standard is written as a list of closed ranges of code points, in
increasing order, from `0x80` on: below that each class is told in words. The ranges are those of
version 17 of the standard.
-/

namespace ByteBench.Text

def inRanges (ranges : List (Nat × Nat)) (c : Char) : Bool :=
  ranges.any fun r => decide (r.1 ≤ c.toNat) && decide (c.toNat ≤ r.2)

def beyondAscii (ranges : List (Nat × Nat)) (c : Char) : Bool :=
  decide (0x80 ≤ c.toNat) && inRanges ranges c

end ByteBench.Text
