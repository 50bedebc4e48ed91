import SkyRegion.Sky.Coordinates
import SkyRegion.Sky.Projection

/-! Coordinates from a header, in two projections, for examples and for running the program. A celestial image places
directions through its projection, after a change of reference system where one is needed. -/

namespace SkyRegion.Sky

open Text

inductive World where
  | celestial (axes : Celestial) (system : Option System)
  | linear (first second : Axis)
  deriving DecidableEq

/-- Why a header describes no image. -/
inductive HeaderFault where
  | tooFewAxes
  | impossiblePole
  deriving DecidableEq

structure HeaderImage where
  header : Header
  world : World
  deriving DecidableEq

/-- Longitudes are brought within one turn, and latitudes beyond the poles are no directions; both are looked
at in the unit they are given in. -/
def directionOf? (longitude latitude : Quantity) : Option Direction := do
  let turn ← Quantity.valueIn? ⟨360, .degree⟩ longitude.unit
  let limit ← Quantity.valueIn? ⟨90, .degree⟩ latitude.unit
  guard (!limit.below latitude.value.abs)
  let longitude ← Quantity.valueIn? ⟨wrap turn longitude.value, longitude.unit⟩ .degree
  let latitude ← latitude.valueIn? .degree
  return ⟨longitude.toFloat, latitude.toFloat⟩

namespace Celestial

def unknownSystem : Text :=
  "Could not determine celestial frame corresponding to the specified WCS object".toList

def inconvertible : Text := "Cannot convert the position".toList

/-- A direction that is out of the projection is not a number. -/
def toAxes (celestial : Celestial) (system : Option System) : CelestialAxes where
  system := system.elim (.error unknownSystem) .ok
  pixel frame x y :=
    let pixel? := do
      let direction ← directionOf? x y
      celestial.pixel? (← (← System.ofFrame? frame).change? (← system) direction)
    pixel?.elim (.error (.refused inconvertible)) .ok
  direction x y := if system.isNone then .error .noPosition else .ok ((celestial.direction? x y).getD (.nan, .nan))

end Celestial

namespace World

def axes : World → Axes
  | .celestial pair system => .celestial (pair.toAxes system)
  | .linear first second => .linear ⟨first.unit, second.unit, fun x y => .ok (first.value x, second.value y)⟩

def increments : World → Number × Number
  | .celestial pair _ => (pair.first.increment, pair.second.increment)
  | .linear first second => (first.increment, second.increment)

end World

namespace HeaderImage

/-- A header without celestial axes needs two others. -/
def ofHeader (header : Header) : Except HeaderFault HeaderImage :=
  match header.celestial?, header.axes with
  | some axes, _ =>
    if axes.isPossible then .ok ⟨header, .celestial axes (header.system? axes)⟩ else .error .impossiblePole
  | none, first :: second :: _ => .ok ⟨header, .linear first second⟩
  | none, _ => .error .tooFewAxes

def coordinates (image : HeaderImage) : Coordinates :=
  ⟨image.header.axes.map (·.type), image.world.axes, image.world.increments⟩

def toImage (image : HeaderImage) : Image := image.coordinates.toImage

end HeaderImage
end SkyRegion.Sky
