import SkyRegion.Sky.Header
import SkyRegion.Sky.Orientation

/-! The sky on a plane. The gnomonic projection shows the half of the sky around its pole, which is the
reference of the image; the plate carrée takes native longitude and latitude as they are, and its reference is
their origin. Offsets are degrees. -/

namespace SkyRegion.Sky

structure Offset where
  x : Float
  y : Float

namespace Projection

def orientation (projection : Projection) (reference : Direction) : Orientation :=
  match projection with
  | .gnomonic => .atPole reference
  | .plateCarree => .atOrigin reference

/-- An angle that rounding has taken beyond a limit is brought back to it. -/
def withinLimit? (limit angle : Float) : Option Float :=
  if angle > limit then if angle > limit + 1e-13 then none else some limit
  else if angle < -limit then if angle < -limit - 1e-13 then none else some (-limit)
  else some angle

/-- The gnomonic projection has no offset for the equator and what is below it. -/
def offset? (projection : Projection) (native : NativeDirection) : Option Offset :=
  match projection with
  | .gnomonic =>
    let height := Degrees.sin native.latitude
    if height ≤ 0 then none
    else
      let radius := degrees 1 * Degrees.cos native.latitude / height
      some ⟨radius * Degrees.sin native.longitude, -radius * Degrees.cos native.longitude⟩
  | .plateCarree => some ⟨native.longitude, native.latitude⟩

/-- Outside the plate carrée there is no direction. -/
def native? (projection : Projection) (offset : Offset) : Option NativeDirection :=
  match projection with
  | .gnomonic =>
    let radius := (offset.x * offset.x + offset.y * offset.y).sqrt
    some ⟨if radius == 0 then 0 else Degrees.atan2 offset.x (-offset.y), Degrees.atan2 (degrees 1) radius⟩
  | .plateCarree => do return ⟨← withinLimit? 180 offset.x, ← withinLimit? 90 offset.y⟩

end Projection

namespace Celestial

def reference (celestial : Celestial) : Direction :=
  ⟨celestial.longitude.reference.toFloat, celestial.latitude.reference.toFloat⟩

/-- The pixel of a direction that is given in the system of the image. -/
def pixel? (celestial : Celestial) (direction : Direction) : Option (Number × Number) := do
  let projection ← celestial.projection?
  let offset ← projection.offset? ((projection.orientation celestial.reference).toNative direction)
  let along := celestial.longitude.pixel (.ofFloat offset.x)
  let across := celestial.latitude.pixel (.ofFloat offset.y)
  guard (along.isFinite && across.isFinite)
  return if celestial.longitudeFirst then (along, across) else (across, along)

/-- The direction at a pixel, with its longitude within one turn. -/
def direction? (celestial : Celestial) (x y : Number) : Option (Number × Number) := do
  let projection ← celestial.projection?
  let (along, across) := if celestial.longitudeFirst then (x, y) else (y, x)
  let native ← projection.native?
    ⟨(celestial.longitude.offset along).toFloat, (celestial.latitude.offset across).toFloat⟩
  let direction := (projection.orientation celestial.reference).toDirection native
  return (wrap 360 (.ofFloat direction.longitude), .ofFloat direction.latitude)

end Celestial
end SkyRegion.Sky
