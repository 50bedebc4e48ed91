import SkyRegion.Unit.Basic

/-! A number with a unit. -/

namespace SkyRegion

structure Quantity where
  value : Number
  unit : Unit
  deriving DecidableEq

namespace Quantity

/-- The value in another unit. Within one unit it is left alone, else it is multiplied by one number. -/
def valueIn? (quantity : Quantity) (target : Unit) : Option Number :=
  if quantity.unit = target then some quantity.value
  else (quantity.unit.factorTo? target).map (quantity.value * ·)

end Quantity
end SkyRegion
