import SkyRegion.Number.Fixed
import SkyRegion.Number.Layout
import SkyRegion.Quantity.Basic
import SkyRegion.Region.Basic

/-! Regions written as definitions. A region of an image is written from its points with two places.
Quantities are written with four places among pixels; on the sky positions are degrees with six places and
lengths arcseconds with four and a mark. Angles of ellipses are measured from the horizontal axis. -/

namespace SkyRegion

open Text

/-- From the vertical to the horizontal axis; more than one turn is brought down by one. -/
def toHorizontal (rotation : Number) : Number :=
  let angle := rotation + 90
  if Floating.below 360 angle then angle - 360 else angle

namespace Region

def separated (parts : List Text) : Text := ", ".toList.intercalate parts

def call (name : String) (parts : List Text) : Text := name.toList ++ '(' :: separated parts ++ [')']

/-- The angle of an ellipse is left out unless it is positive. Vertices after the first are set more
closely than other numbers. -/
def definition (region : Region) : Text :=
  let place (x : Number) := x.fixed 2
  match region.kind, region.points with
  | .point, ⟨x, y⟩ :: _ => call "point" [place x, place y]
  | .rectangle, ⟨x, y⟩ :: ⟨width, height⟩ :: _ =>
    call "box" [place x, place y, place width, place height, region.rotation.angleText]
  | .ellipse, ⟨x, y⟩ :: ⟨width, height⟩ :: _ =>
    if width.same height then call "circle" [place x, place y, place width]
    else
      let angle := toHorizontal region.rotation
      let parts := [place x, place y, place width, place height]
      call "ellipse" (if Floating.below 0 angle then parts ++ [angle.angleText] else parts)
  | .polygon, ⟨x, y⟩ :: rest =>
    let further := rest.flatMap fun point => ',' :: place point.x ++ ',' :: place point.y
    call "polygon" [place x, place y ++ further]
  | _, [] => []
  | _, [_] => []

end Region

/-- How quantities are written. -/
inductive QuantityStyle where
  | pixel
  | sky
  | linear
  deriving DecidableEq

/-- Why quantities cannot be written. -/
inductive FormatFault where
  | incompatible (source target : Unit)
  | tooFew (expected given : Nat)
  | missing
  deriving DecidableEq

namespace FormatFault

def message : FormatFault → Text
  | .incompatible source target => source.mismatch target
  | .tooFew expected given =>
    "not enough values to unpack (expected ".toList ++ Text.ofNat expected ++ ", got ".toList ++
      Text.ofNat given ++ [')']
  | .missing => "a radius is missing".toList

end FormatFault

namespace QuantityStyle

def valueIn (unit : Unit) (quantity : Quantity) : Except FormatFault Number :=
  (quantity.valueIn? unit).elim (.error (.incompatible quantity.unit unit)) .ok

def position (style : QuantityStyle) (quantity : Quantity) : Except FormatFault Text :=
  match style with
  | .pixel => .ok (quantity.value.fixed 4)
  | .sky => (valueIn .degree quantity).map (·.fixed 6)
  | .linear => .ok (quantity.value.fixed 6)

def length (style : QuantityStyle) (quantity : Quantity) : Except FormatFault Text :=
  match style with
  | .pixel => .ok (quantity.value.fixed 4)
  | .sky => (valueIn .arcsecond quantity).map (·.fixed 4 ++ ['"'])
  | .linear => .ok (quantity.value.fixed 4 ++ ['"'])

/-- Writes as many quantities as are expected, and ignores those beyond. -/
def parts (expected : Nat) (write : Quantity → Except FormatFault Text) (quantities : List Quantity) :
    Except FormatFault (List Text) := do
  let written ← (quantities.take expected).mapM write
  if written.length < expected then throw (.tooFew expected written.length)
  return written

/-- A position and a number of lengths. On the sky the two are taken apart before they are written. -/
def centered (style : QuantityStyle) (lengths : Nat) (quantities : List Quantity) :
    Except FormatFault (List Text) := do
  if style = .pixel then parts (2 + lengths) style.position quantities
  else return (← parts 2 style.position quantities) ++ (← parts lengths style.length (quantities.drop 2))

/-- An ellipse is a circle when its radii are equal as numbers, whatever their units. Among pixels an angle
of zero is left out. -/
def ellipse (style : QuantityStyle) (quantities : List Quantity) (angle : Number) :
    Except FormatFault Text := do
  match quantities[2]?, quantities[3]? with
  | some width, some height =>
    if width.value.same height.value then return Region.call "circle" (← style.centered 1 quantities)
    let parts ← style.centered 2 quantities
    if style = .pixel && angle.same 0 then return Region.call "ellipse" parts
    return Region.call "ellipse" (parts ++ [angle.angleText])
  | _, _ => throw .missing

def polygon (style : QuantityStyle) (quantities : List Quantity) : Except FormatFault Text := do
  let separator := if style = .pixel then ", ".toList else [',']
  return "polygon(".toList ++ separator.intercalate (← quantities.mapM style.position) ++ [')']

/-- The definition of a region from its quantities and an angle measured from the horizontal axis. -/
def definition (style : QuantityStyle) (kind : RegionKind) (quantities : List Quantity) (angle : Number) :
    Except FormatFault Text :=
  match kind with
  | .point => (parts 2 style.position quantities).map (Region.call "point")
  | .rectangle => do return Region.call "box" ((← style.centered 2 quantities) ++ [angle.angleText])
  | .ellipse => style.ellipse quantities angle
  | .polygon => style.polygon quantities

end QuantityStyle
end SkyRegion
