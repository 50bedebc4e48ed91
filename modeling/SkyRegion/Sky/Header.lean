import SkyRegion.Number.SquareRoot
import SkyRegion.Quantity.Basic
import SkyRegion.Sky.Coordinates
import SkyRegion.Text.Blank

/-! Headers that relate the pixels of an image to the world. Every axis has a type, a world value at a
reference pixel, and a step for each pixel. Two axes are celestial when their types name the two coordinates
of one system; they may stand anywhere and in either order. -/

namespace SkyRegion.Sky

open Text

/-- A text in a header without the spaces after it. -/
def padless (text : Text) : Text := (text.reverse.dropWhile (· = ' ')).reverse

structure Axis where
  type : Text
  reference : Number
  referencePixel : Number
  step : Number
  unit : Unit
  deriving DecidableEq

structure Header where
  axes : List Axis
  system : Option Text
  equinox : Option Number
  deriving DecidableEq

inductive Projection where
  | gnomonic
  | plateCarree
  deriving DecidableEq

namespace Axis

/-- The type without the spaces that fill it up. -/
def name (axis : Axis) : Text := padless axis.type

/-- The coordinate that a type names: its first four characters. -/
def coordinate (axis : Axis) : Text := axis.name.take 4

/-- The code of a projection, which follows the coordinate after a dash. -/
def code? (axis : Axis) : Option Text :=
  match axis.name.drop 4 with
  | ['-', a, b, c] => some [a, b, c]
  | _ => none

def projection? (axis : Axis) : Option Projection :=
  match axis.code? with
  | some ['T', 'A', 'N'] => some .gnomonic
  | some ['C', 'A', 'R'] => some .plateCarree
  | _ => none

/-- Codes of the projections whose reference is their pole. -/
def zenithalCodes : List Text :=
  ["AZP", "SZP", "TAN", "STG", "SIN", "ARC", "ZPN", "ZEA", "AIR"].map (·.toList)

/-- The latitude coordinate that goes with a longitude. A coordinate is celestial with the code of a projection
after it, or as one of two bare names. -/
def partner? (longitude : Axis) : Option Text :=
  if longitude.code?.isSome then
    match longitude.coordinate with
    | ['R', 'A', '-', '-'] => some "DEC-".toList
    | [system, 'L', 'O', 'N'] => some (system :: "LAT".toList)
    | [first, second, 'L', 'N'] => some (first :: second :: "LT".toList)
    | _ => none
  else if longitude.name = "RA".toList then some "DEC".toList
  else none

def isPartner (longitude latitude : Axis) : Bool :=
  longitude.partner? = some latitude.coordinate && longitude.code? = latitude.code?

/-- The same axis with an angular unit replaced by the degree. -/
def inDegrees (axis : Axis) : Axis :=
  match axis.unit.factorTo? .degree with
  | some factor =>
    if axis.unit = .degree then axis
    else { axis with reference := axis.reference * factor, step := axis.step * factor, unit := .degree }
  | none => axis

/-- World value at a pixel, counted from zero. -/
def offset (axis : Axis) (pixel : Number) : Number := (pixel + 1 - axis.referencePixel) * axis.step

def value (axis : Axis) (pixel : Number) : Number := axis.reference + axis.offset pixel

/-- The pixel that has a given offset. -/
def pixel (axis : Axis) (offset : Number) : Number := offset / axis.step + axis.referencePixel - 1

/-- How much of the world one pixel covers, whichever way the axis runs. The square of a very small or very
large step is lost, and the increment with it. -/
def increment (axis : Axis) : Number := (axis.step * axis.step).squareRoot

end Axis

/-- The two celestial axes; the flag says whether the longitude comes first on the image. -/
structure Celestial where
  longitude : Axis
  latitude : Axis
  longitudeFirst : Bool
  deriving DecidableEq

namespace Celestial

def first (celestial : Celestial) : Axis :=
  if celestial.longitudeFirst then celestial.longitude else celestial.latitude

def second (celestial : Celestial) : Axis :=
  if celestial.longitudeFirst then celestial.latitude else celestial.longitude

/-- Both coordinates name the same projection. -/
def projection? (celestial : Celestial) : Option Projection := do
  let projection ← celestial.longitude.projection?
  guard (celestial.latitude.projection? = some projection)
  return projection

/-- A pole cannot have a latitude beyond a quarter turn, rounding aside. -/
def isPossible (celestial : Celestial) : Bool :=
  let zenithal := celestial.longitude.code?.any Axis.zenithalCodes.contains
  !(zenithal && Floating.below (90 + Number.ofDecimal false 1 (-10)) celestial.latitude.reference.abs)

end Celestial

namespace System

def fk4NoETerms : System := .other "FK4NoETerms".toList "fk4noeterms".toList

def terrestrial : System := .other "ITRS".toList "itrs".toList

/-- Systems by the name that an image header gives them. -/
def headerNames : List (Text × System) :=
  [("FK4".toList, fk4), ("FK4-NO-E".toList, fk4NoETerms), ("FK5".toList, fk5), ("ICRS".toList, icrs)]

def ofHeaderName? (name : Text) : Option System := headerNames.lookup name

/-- Without a name the equinox tells older catalogues from newer ones. -/
def ofEquinox : Option Number → System
  | none => .icrs
  | some equinox => if equinox.below 1984 then .fk4 else .fk5

end System

namespace Header

/-- The celestial pair among the axes, if there is one. -/
def celestial? (header : Header) : Option Celestial := do
  let numbered := header.axes.zipIdx
  let pairs := numbered.flatMap fun (longitude, place) => numbered.filterMap fun (latitude, other) =>
    if longitude.isPartner latitude then
      some (Celestial.mk longitude.inDegrees latitude.inDegrees (place < other))
    else none
  pairs.head?

/-- Galactic and terrestrial coordinates are their own system. Equatorial and ecliptic ones belong to the
system that the header names or, where it names none, to the one of its equinox. -/
def system? (header : Header) (celestial : Celestial) : Option System :=
  let catalogue := match (header.system.map padless).filter (!·.isEmpty) with
    | some name => System.ofHeaderName? name
    | none => some (.ofEquinox header.equinox)
  match celestial.longitude.coordinate with
  | ['G', 'L', 'O', 'N'] => some .galactic
  | ['T', 'L', 'O', 'N'] => some .terrestrial
  | ['R', 'A', '-', '-'] => catalogue
  | ['R', 'A'] => catalogue
  | ['E', 'L', 'O', 'N'] => catalogue
  | _ => none

end Header
end SkyRegion.Sky
