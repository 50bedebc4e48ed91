import SkyRegion.Image.Dialogue
import SkyRegion.Number.Floating

/-! Images with world coordinates. How the axes of an image relate its pixels to the world is left to a library of
coordinate systems, and what that library finds for one image stands here as it is. An image that has celestial
axes places positions on the sky; any other is linear in its first two axes. Positions and lengths that already
count pixels are left alone. -/

namespace SkyRegion.Sky

open Text

/-- Any system besides these four is known by the name of its kind and a name of its own. -/
inductive System where
  | fk4
  | fk5
  | icrs
  | galactic
  | other (kind name : Text)
  deriving DecidableEq

namespace System

/-- The name of the frame that an image in the system has. -/
def frameName : System → Text
  | .fk4 => Frame.b1950.name
  | .fk5 => Frame.j2000.name
  | .icrs => Frame.icrs.name
  | .galactic => Frame.galactic.name
  | .other kind name => if holds "ecliptic".toList kind.lower then Frame.ecliptic.name else name.map Char.toUpper

end System

structure CelestialAxes where
  /-- The system of the axes. It is refused for a reason if the axes or their system are not known. -/
  system : Except Text System
  /-- The pixel of a position in the frame of a region file, which need not be finite. A position may be refused
  for what it is, or because its frame has no way to that of the image. -/
  pixel : Frame → Quantity → Quantity → Except Image.Fault (Number × Number)
  /-- The direction at a pixel, in degrees. -/
  direction : Number → Number → Except Image.Fault (Number × Number)

structure LinearAxes where
  first : Unit
  second : Unit
  values : Number → Number → Except Image.Fault (Number × Number)

inductive Axes where
  | celestial (axes : CelestialAxes)
  | linear (axes : LinearAxes)

/-- The coordinates of an image, as they are accepted: the celestial axes, if it has some, and else two others. -/
structure Coordinates where
  /-- The types of all axes of the image. -/
  types : List Text
  axes : Axes
  /-- How much of the world one pixel covers along the first axis, and along the second. -/
  increments : Number × Number

namespace Coordinates

def hasSkyFrame (coordinates : Coordinates) : Bool :=
  match coordinates.axes with
  | .celestial _ => true
  | .linear _ => false

def skyFrameName (coordinates : Coordinates) : Except Image.Fault Text :=
  match coordinates.axes with
  | .celestial axes => (axes.system.map System.frameName).mapError .refused
  | .linear _ => .ok []

def hasLinearFrame (coordinates : Coordinates) : Bool :=
  !coordinates.hasSkyFrame && 2 ≤ coordinates.types.length && coordinates.types.any fun type => !type.trim.isEmpty

/-- Frames whose positions an image is asked to place. -/
def fileFrames : List Frame := [.j2000, .b1950, .galactic, .ecliptic, .icrs]

/-- A position that is refused has no pixel, and neither has one whose pixel is not finite. -/
def placeOnSky (coordinates : Coordinates) (frame : Frame) (x y : Quantity) :
    Except Image.Fault (Option (Number × Number)) :=
  match coordinates.axes with
  | .linear _ => .ok none
  | .celestial axes =>
    if fileFrames.contains frame then
      match axes.pixel frame x y with
      | .ok (x, y) => .ok (if x.isFinite && y.isFinite then some (x, y) else none)
      | .error fault => if fault.isRefusal then .ok none else .error fault
    else .ok none

def place (coordinates : Coordinates) (frame : Frame) (x y : Quantity) :
    Except Image.Fault (Option (Number × Number)) :=
  if x.unit = .pixel && y.unit = .pixel then .ok (some (x.value, y.value)) else coordinates.placeOnSky frame x y

/-- The increment and unit of an axis, counted from zero, or backward from minus one. -/
def increment (coordinates : Coordinates) (axis : Int) : Except Image.Fault (Number × Unit) :=
  let (first, second) := match coordinates.axes with
    | .celestial _ => (Unit.degree, Unit.degree)
    | .linear axes => (axes.first, axes.second)
  if axis = 0 || axis = -2 then .ok (coordinates.increments.1, first)
  else if axis = 1 || axis = -1 then .ok (coordinates.increments.2, second)
  else .error .noAxis

/-- An axis without a unit takes every length by its value. -/
def pixelLength (coordinates : Coordinates) (length : Quantity) (axis : Int) : Except Image.Fault Number := do
  if length.unit = .pixel then return length.value
  let (increment, unit) ← coordinates.increment axis
  if unit = .one then return length.value / increment
  match length.valueIn? unit with
  | some value => return value / increment
  | none => throw (.incompatible length.unit unit)

def worldPosition (coordinates : Coordinates) (x y : Number) : Except Image.Fault (Quantity × Quantity) :=
  match coordinates.axes with
  | .celestial axes => do
    let (longitude, latitude) ← axes.direction x y
    return (⟨longitude, .degree⟩, ⟨latitude, .degree⟩)
  | .linear axes => do
    let (first, second) ← axes.values x y
    return (⟨first, axes.first⟩, ⟨second, axes.second⟩)

/-- Lengths on the sky are given in arcseconds. -/
def worldLength (coordinates : Coordinates) (length : Number) (axis : Int) : Except Image.Fault Quantity := do
  let (increment, unit) ← coordinates.increment axis
  let world : Quantity := ⟨length * increment, unit⟩
  if coordinates.hasSkyFrame then
    match world.valueIn? .arcsecond with
    | some value => return ⟨value, .arcsecond⟩
    | none => throw (.incompatible unit .arcsecond)
  return world

def answer (coordinates : Coordinates) : (query : Image.Query) → Except Image.Fault query.Reply
  | .hasSkyFrame => .ok coordinates.hasSkyFrame
  | .skyFrameName => coordinates.skyFrameName
  | .hasLinearFrame => .ok coordinates.hasLinearFrame
  | .toPixel frame x y => coordinates.place frame x y
  | .toPixelLength length axis => coordinates.pixelLength length axis.index
  | .toWorld x y => coordinates.worldPosition x y
  | .toWorldLength length axis => coordinates.worldLength length axis.index

def toImage (coordinates : Coordinates) : Image := ⟨fun _ => coordinates.answer⟩

end Coordinates
end SkyRegion.Sky
