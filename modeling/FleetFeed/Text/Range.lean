/-! Ranges of code points. -/
namespace FleetFeed.Text

/-- The character lies in one of the ranges, given by their first and last code points. -/
def inRanges (ranges : List (Nat × Nat)) (c : Char) : Bool := ranges.any fun r => r.1 ≤ c.toNat && c.toNat ≤ r.2

end FleetFeed.Text
