import SkyRegion.Number.Layout

/-! Units of quantities. The named ones are what region files and images use; a compound unit is whatever else
a unit text may spell out. Every unit is a number times powers of base units, among them the radian, the metre,
the second and the pixel, and units with the same powers convert into each other. -/

namespace SkyRegion

/-- The powers in which a unit measures angles, lengths, times and pixels. Other base units, and powers that are
not whole, stand among the others by the names of their units, in order and none of them zero. -/
structure Dimension where
  angle : Int := 0
  length : Int := 0
  time : Int := 0
  pixels : Int := 0
  others : List (Text × Rat) := []
  deriving DecidableEq

structure CompoundUnit where
  scale : Number
  dimension : Dimension
  deriving DecidableEq

inductive Unit where
  | one
  | degree
  | radian
  | arcsecond
  | arcminute
  | hourAngle
  | pixel
  | metre
  | hertz
  | compound (unit : CompoundUnit)
  deriving DecidableEq

namespace Unit

def dimension : Unit → Dimension
  | .one => {}
  | .degree => { angle := 1 }
  | .radian => { angle := 1 }
  | .arcsecond => { angle := 1 }
  | .arcminute => { angle := 1 }
  | .hourAngle => { angle := 1 }
  | .pixel => { pixels := 1 }
  | .metre => { length := 1 }
  | .hertz => { time := -1 }
  | .compound unit => unit.dimension

def radiansInDegree : Number := .ofDecimal false 17453292519943295 (-18)

/-- The number in front of the powers. The other angles are defined by the degree. -/
def scale : Unit → Number
  | .degree => radiansInDegree
  | .arcsecond => 1 / 3600 * radiansInDegree
  | .arcminute => 1 / 60 * radiansInDegree
  | .hourAngle => 15 * radiansInDegree
  | .compound unit => unit.scale
  | _ => 1

/-- The factor from a unit to a different one that measures the same thing, unless its scale has vanished. -/
def factorTo? (source target : Unit) : Option Number :=
  if source.dimension = target.dimension && !source.scale.same 0 then some (source.scale / target.scale) else none

/-- The name and, in parentheses, what the unit measures. -/
def describe : Unit → Text
  | .one => "'' (dimensionless)".toList
  | .degree => "'deg' (angle)".toList
  | .radian => "'rad' (angle)".toList
  | .arcsecond => "'arcsec' (angle)".toList
  | .arcminute => "'arcmin' (angle)".toList
  | .hourAngle => "'hourangle' (angle)".toList
  | .pixel => "'pix'".toList
  | .metre => "'m' (length)".toList
  | .hertz => "'Hz' (frequency)".toList
  | .compound unit => '\'' :: unit.scale.describe ++ ['\'']

/-- Said of two units that measure different things. -/
def mismatch (source target : Unit) : Text :=
  source.describe ++ " and ".toList ++ target.describe ++ " are not convertible".toList

end Unit
end SkyRegion
