import SkyRegion.Number.Floating

/-! Whole powers of doubles. -/

namespace SkyRegion.Number

/-- A power that is finite. An exponent beyond every double has none. From the two thousandth power on, a base
that is not between one half and two has left the range of doubles, so only its direction counts. -/
def power? (base : Number) (exponent : Int) : Option Number :=
  if base.same 1 || exponent = 0 then some 1
  else if base.same 0 then if exponent < 0 then none else some 0
  else do
    let _ ← (Floating.ofInt? exponent : Option Number)
    if 2000 ≤ exponent.natAbs then if 1 < base.magnitude ↔ 0 < exponent then none else some 0
    else
      let result : Number := .ofMagnitude (base.isNegative && exponent % 2 = 1) (base.magnitude ^ exponent)
      if result.isFinite then some result else none

end SkyRegion.Number
