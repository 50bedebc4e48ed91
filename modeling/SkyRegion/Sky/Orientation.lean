import SkyRegion.Sky.Direction

/-! How the sphere of a projection lies on the sky. A projection has a pole and a prime meridian of its own;
three angles say where they are, and turn directions into native ones and back. -/

namespace SkyRegion.Sky

/-- A direction by the pole and the prime meridian of a projection. -/
structure NativeDirection where
  longitude : Float
  latitude : Float

/-- The celestial longitude of the native pole, its distance from the celestial pole, and the native longitude
of the celestial pole. -/
structure Orientation where
  pole : Float
  tilt : Float
  meridian : Float

namespace Orientation

/-- What counts as zero when poles are compared. -/
def closeness : Float := 1e-10

/-- Of two latitudes for the native pole the one nearer to the celestial pole is taken, if it is one. -/
def poleLatitude (first second : Float) : Float :=
  let isLatitude (angle : Float) : Bool := angle.abs < 90 + closeness
  let (near, far) := if (90 - first).abs < (90 - second).abs then (first, second) else (second, first)
  let chosen := if isLatitude near then near else far
  if !isLatitude chosen then chosen else if chosen > 90 then 90 else if chosen < -90 then -90 else chosen

/-- The celestial longitude of the native pole, when the reference lies on the native equator. -/
def poleLongitude (reference : Direction) (latitude meridian : Float) : Float :=
  let cosine := Degrees.cos reference.latitude
  let depth := Degrees.cos latitude * cosine
  let longitude :=
    if depth.abs < closeness then
      if cosine.abs < closeness then reference.longitude
      else if latitude > 0 then reference.longitude + meridian - 180
      else reference.longitude - meridian
    else
      let x := -(Degrees.sin latitude * Degrees.sin reference.latitude) / depth
      reference.longitude - Degrees.atan2 (Degrees.sin meridian / cosine) x
  if reference.longitude ≥ 0 then
    if longitude < 0 then longitude + 360 else if longitude > 360 then longitude - 360 else longitude
  else if longitude > 0 then longitude - 360
  else if longitude < -360 then longitude + 360
  else longitude

/-- The reference is the native pole. Unless it is the celestial pole too, the celestial pole lies half a turn
from the prime meridian. -/
def atPole (reference : Direction) : Orientation :=
  ⟨reference.longitude, 90 - reference.latitude, if reference.latitude < 90 then 180 else 0⟩

/-- The reference is where the native equator meets the prime meridian. -/
def atOrigin (reference : Direction) : Orientation :=
  let (meridian, latitude) : Float × Float :=
    if reference.latitude < 0 then
      let distance := Degrees.acos (Degrees.sin reference.latitude)
      (180, poleLatitude (Degrees.half (180 + distance)) (Degrees.half (180 - distance)))
    else
      let distance := 90 - reference.latitude
      (0, poleLatitude (Degrees.half distance) (Degrees.half (-distance)))
  ⟨poleLongitude reference latitude meridian, 90 - latitude, meridian⟩

/-- Turns the sphere by the tilt about the axis from which `difference` is counted. Where the result has no
longitude of its own it takes the one given. -/
def swing (tilt difference latitude poleLongitude : Float) : Float × Float :=
  let depth := Degrees.cos latitude * Degrees.cos tilt
  let direct := Degrees.sin latitude * Degrees.sin tilt - depth * Degrees.cos difference
  let x :=
    if direct.abs < 1e-5 then -Degrees.cos (latitude + tilt) + depth * (1 - Degrees.cos difference) else direct
  let y := -Degrees.cos latitude * Degrees.sin difference
  let longitude := if x == 0 && y == 0 then poleLongitude else Degrees.atan2 y x
  if Degrees.remainder difference 180 == 0 then
    let along := latitude + Degrees.cos difference * tilt
    let along := if along > 90 then 180 - along else along
    (longitude, if along < -90 then -180 - along else along)
  else
    let z := Degrees.sin latitude * Degrees.cos tilt +
      Degrees.cos latitude * Degrees.sin tilt * Degrees.cos difference
    if z.abs > 0.99 then
      let height := Degrees.acos (x * x + y * y).sqrt
      (longitude, if z < 0 then -height else height)
    else (longitude, Degrees.asin z)

/-- Brings a longitude to the same side of zero as that of the pole, and within one turn. -/
def besidePole (orientation : Orientation) (longitude : Float) : Float :=
  let longitude :=
    if orientation.pole ≥ 0 then if longitude < 0 then longitude + 360 else longitude
    else if longitude > 0 then longitude - 360 else longitude
  if longitude > 360 then longitude - 360 else if longitude < -360 then longitude + 360 else longitude

/-- With both poles in one line the longitudes differ by an angle, and perhaps in direction. -/
def toNative (orientation : Orientation) (direction : Direction) : NativeDirection :=
  let ⟨pole, tilt, meridian⟩ := orientation
  if tilt == 0 then
    let shift := Degrees.remainder (meridian - 180 - pole) 360
    ⟨Degrees.half (Degrees.remainder (direction.longitude + shift) 360), direction.latitude⟩
  else if Degrees.sin tilt == 0 then
    let shift := Degrees.remainder (meridian + pole) 360
    ⟨Degrees.half (Degrees.remainder (shift - direction.longitude) 360), -direction.latitude⟩
  else
    let difference := direction.longitude - pole
    let (longitude, latitude) :=
      swing tilt difference direction.latitude (if tilt < 90 then difference - 180 else -difference)
    ⟨Degrees.half (Degrees.remainder (meridian + longitude) 360), latitude⟩

def toDirection (orientation : Orientation) (native : NativeDirection) : Direction :=
  let ⟨pole, tilt, meridian⟩ := orientation
  if tilt == 0 then
    let shift := Degrees.remainder (pole + 180 - meridian) 360
    ⟨orientation.besidePole (native.longitude + shift), native.latitude⟩
  else if Degrees.sin tilt == 0 then
    let shift := Degrees.remainder (pole + meridian) 360
    ⟨orientation.besidePole (shift - native.longitude), -native.latitude⟩
  else
    let difference := native.longitude - meridian
    let (longitude, latitude) :=
      swing tilt difference native.latitude (if tilt < 90 then difference + 180 else -difference)
    ⟨orientation.besidePole (pole + longitude), latitude⟩

end Orientation
end SkyRegion.Sky
