import SkyRegion.Image.Dialogue
import SkyRegion.Settings
import SkyRegion.Text.Utf8
import SkyRegion.Writer.Format

/-! A region file in the making. It begins with three lines, a banner, the style defaults and the frame, and
each region that is added becomes one more line. A region that cannot be written leaves the file as it was.
Among pixels a file needs no image; on the sky it takes the frame of its image. -/

namespace SkyRegion

open Image Text

inductive Space where
  | pixel
  | world
  deriving DecidableEq

namespace Space

def name : Space → Text
  | .pixel => "pixel".toList
  | .world => "world".toList

def ofName? (name : Text) : Option Space := [pixel, world].find? (·.name = name)

end Space

structure Writer where
  space : Space
  frame : Text
  style : QuantityStyle
  lines : List Text
  count : Nat
  deriving DecidableEq

namespace Writer

inductive Fault where
  | noImage
  | image (fault : Image.Fault)
  | style (faults : List (Text × Style.FieldFault))
  | conversion (kind : RegionKind) (reason : Text)
  | format (fault : FormatFault)
  | wrongCount (kind : RegionKind) (count : Nat)
  | empty
  | unwritable (file reason : Text)
  deriving DecidableEq

namespace Fault

def message : Fault → Text
  | .noImage => "world space export needs a coordinate bridge".toList
  | .image fault => fault.message
  | .style _ => []
  | .conversion kind reason =>
    "Cannot convert ".toList ++ kind.name ++ " to world coordinates: ".toList ++ reason
  | .format fault => fault.message
  | .wrongCount kind count =>
    kind.name ++ " cannot be exported from ".toList ++ Text.ofNat count ++ " quantities".toList
  | .empty => "Export region failed: no regions to export.".toList
  | .unwritable file reason => "Cannot write region file ".toList ++ file ++ ": ".toList ++ reason

end Fault

abbrev Writing (α : Type) := ExceptT Fault Dialogue α

def banner (version : Text) : Text := "# Region file format: DS9 CARTA ".toList ++ version

/-- Without a keyword for its frame a file is written as if it counted pixels. -/
def header (settings : Settings) (frame : Text) : Except Fault (List Text) := do
  let style ← settings.style.mapError .style
  return [banner settings.formatVersion, style.line, if frame.isEmpty then "image".toList else frame].map
    (· ++ ['\n'])

def create (settings : Settings) (space : Space) (hasImage : Bool) : Writing Writer := do
  match space with
  | .pixel =>
    let frame := "physical".toList
    return ⟨space, frame, .pixel, ← header settings frame, 0⟩
  | .world =>
    unless hasImage do throw .noImage
    let frame := Frame.writtenKeyword (← frameName.adapt .image)
    return ⟨space, frame, if frame.isEmpty then .linear else .sky, ← header settings frame, 0⟩

/-- A name follows its region as a property. -/
def labelled (definition name : Text) : Text :=
  if name.isEmpty then definition else definition ++ " # text=".toList ++ '{' :: name ++ ['}']

def append (writer : Writer) (definition name : Text) : Writer :=
  { writer with lines := writer.lines ++ [labelled definition name ++ ['\n']], count := writer.count + 1 }

/-- A conversion that the image refuses, or does not offer, is a fault of the region. -/
def conversionFault (kind : RegionKind) (fault : Image.Fault) : Fault :=
  match fault with
  | .unavailable reason => .conversion kind reason
  | fault => if fault.isRefusal then .conversion kind fault.message else .image fault

def askWorld (point : Point) : ExceptT Image.Fault Dialogue (List Quantity) := do
  let (x, y) ← request (.toWorld point.x point.y)
  return [x, y]

def toWorld (region : Region) : ExceptT Image.Fault Dialogue (List Quantity) := do
  match region.kind, region.points with
  | .polygon, points => return (← points.mapM askWorld).flatten
  | .point, center :: _ => askWorld center
  | _, center :: size :: _ =>
    let position ← askWorld center
    let width ← request (.toWorldLength size.x .horizontal)
    let height ← request (.toWorldLength size.y .vertical)
    return position ++ [width, height]
  | _, _ => return []

/-- The angle of a region as it is written on the sky. -/
def worldAngle (region : Region) : Number :=
  match region.kind with
  | .ellipse => toHorizontal region.rotation
  | .rectangle => region.rotation
  | _ => 0

def addRegion (writer : Writer) (region : Region) : Writing Writer := do
  match writer.space with
  | .pixel => return writer.append region.definition region.name
  | .world =>
    let quantities ← (toWorld region).adapt (conversionFault region.kind)
    match writer.style.definition region.kind quantities (worldAngle region) with
    | .ok definition => return writer.append definition region.name
    | .error fault => throw (.format fault)

/-- How many quantities make a region of a kind. -/
def fitsQuantities (kind : RegionKind) (count : Nat) : Bool :=
  match kind with
  | .point => count = 2
  | .polygon => 6 ≤ count && count % 2 = 0
  | _ => count = 4

def addQuantities (writer : Writer) (kind : RegionKind) (quantities : List Quantity) (angle : Number)
    (name : Text) : Except Fault Writer := do
  unless fitsQuantities kind quantities.length do throw (.wrongCount kind quantities.length)
  let definition ← (writer.style.definition kind quantities angle).mapError .format
  return writer.append definition name

/-- All lines, once there is a region among them. -/
def finished (writer : Writer) : Except Fault (List Text) :=
  if writer.count = 0 then .error .empty else .ok writer.lines

/-- Writes the finished file, given a way to write bytes that may fail for a reason. -/
def save {Files : Type} (writer : Writer) (file : Text) (write : List UInt8 → StateM Files (Option Text)) :
    StateM Files (Except Fault PUnit) := do
  match writer.finished with
  | .error fault => return .error fault
  | .ok lines =>
    match ← write (Utf8.encode lines.flatten) with
    | some reason => return .error (.unwritable file reason)
    | none => return .ok ⟨⟩

end Writer
end SkyRegion
