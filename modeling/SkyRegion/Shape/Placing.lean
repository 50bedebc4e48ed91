import SkyRegion.Image.Dialogue
import SkyRegion.Shape.Reading

/-! Shapes placed on an image. Positions go through the image one by one, and a size one axis after the
other; the first question that fails decides what becomes of the shape. -/

namespace SkyRegion

open Image Text

abbrev Placing := ExceptT Setback Dialogue

namespace Shape

def name : Shape → Text
  | .point _ => ShapeKeyword.point.name
  | .box .. => ShapeKeyword.box.name
  | .ellipse .. => ShapeKeyword.ellipse.name
  | .polygon _ => ShapeKeyword.polygon.name

/-- An image that fails instead of answering interrupts the import. -/
def placePosition (mode : PositionMode) (shape : Text) (position : Position) : Placing Point :=
  match mode with
  | .pixels => return ⟨position.x.value, position.y.value⟩
  | .sky frame => ExceptT.mk <| .ask (.toPixel frame position.x position.y) fun
    | .ok (some (x, y)) => .done (.ok ⟨x, y⟩)
    | .ok none => .done (.error (.complaint (.notPlaced shape)))
    | .error fault => .done (.error (.interruption (.image fault)))

/-- A length that the image refuses is a complaint. -/
def placeLength (shape : Text) (length : Quantity) (axis : Axis) : Placing Number :=
  ExceptT.mk <| .ask (.toPixelLength length axis) fun
    | .ok pixels => .done (.ok pixels)
    | .error fault =>
      .done <| .error <|
        if fault.isRefusal then .complaint (.notPlaced shape) else .interruption (.image fault)

def placeExtent (mode : PositionMode) (shape : Text) (extent : Extent) : Placing Point :=
  match mode with
  | .pixels => return ⟨extent.width.value, extent.height.value⟩
  | .sky _ => do
    let width ← placeLength shape extent.width .horizontal
    let height ← placeLength shape extent.height .vertical
    return ⟨width, height⟩

def kind : Shape → RegionKind
  | .point _ => .point
  | .box .. => .rectangle
  | .ellipse .. => .ellipse
  | .polygon _ => .polygon

def rotation : Shape → Number
  | .box _ _ rotation => rotation
  | .ellipse _ _ rotation => rotation
  | _ => 0

/-- The center before the size. -/
def placeCentered (mode : PositionMode) (shape : Text) (center : Position) (extent : Extent) :
    Placing (List Point) := do
  let place ← placePosition mode shape center
  let size ← placeExtent mode shape extent
  return [place, size]

/-- Vertices are taken as they come. A ring that crosses itself is only noted in a log, which is left out: judging the
ring is taken to come to an end, and nothing depends on what it finds. -/
def placePoints (mode : PositionMode) (shape : Shape) : Placing (List Point) :=
  match shape with
  | .point position => return [← placePosition mode shape.name position]
  | .box center extent _ => placeCentered mode shape.name center extent
  | .ellipse center extent _ => placeCentered mode shape.name center extent
  | .polygon vertices => vertices.mapM (placePosition mode shape.name)

def place (mode : PositionMode) (label : Text) (fileId : Int) (shape : Shape) : Placing Region := do
  let points ← placePoints mode shape
  match Region.check ⟨shape.kind, points, shape.rotation, label, fileId⟩ with
  | .ok region => return region
  | .error fault => throw (.interruption (.region fault))

end Shape
end SkyRegion
