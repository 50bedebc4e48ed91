import SkyRegion.Text.Basic

/-! Sets of characters given by increasing, disjoint ranges of codes. -/

namespace SkyRegion.Text

/-- The ranges increase, so the first one that does not end before the code decides. -/
def inRanges : List (Nat × Nat) → Nat → Bool
  | [], _ => false
  | (first, last) :: rest, code => if code ≤ last then first ≤ code else inRanges rest code

end SkyRegion.Text
