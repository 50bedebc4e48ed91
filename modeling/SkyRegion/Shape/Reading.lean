import SkyRegion.Shape.Keyword
import SkyRegion.Token

/-! Tokens of a definition read as a shape. Counts are judged first, then every token from left to right,
and the angle last; the image is not consulted. -/

namespace SkyRegion

open Text

/-- How the numbers of a position are meant. -/
inductive PositionMode where
  | pixels
  | sky (frame : Frame)
  deriving DecidableEq

namespace PositionMode

def isPixels : PositionMode → Bool
  | .pixels => true
  | .sky _ => false

/-- The unit of a bare number in a position. -/
def unit (mode : PositionMode) : Unit := if mode.isPixels then .pixel else .degree

end PositionMode

structure Position where
  x : Quantity
  y : Quantity
  deriving DecidableEq

structure Extent where
  width : Quantity
  height : Quantity
  deriving DecidableEq

/-- A shape as written. The rotation of an ellipse is already measured from the vertical axis. -/
inductive Shape where
  | point (position : Position)
  | box (center : Position) (extent : Extent) (rotation : Number)
  | ellipse (center : Position) (extent : Extent) (rotation : Number)
  | polygon (vertices : List Position)
  deriving DecidableEq

namespace Shape

variable [UnitLibrary]

def quantities (shape : Text) (place : Nat → Unit) (latitude : Nat → Bool) (tokens : List Text) :
    Except Setback (List Quantity) :=
  tokens.zipIdx.mapM fun (token, index) => Token.quantity shape (place index) (latitude index) token

/-- The coordinates after the word for a point, with or without a marker word before it. -/
def pointTokens? (word : Text) (arguments : List Text) : Option (List Text) :=
  let tokens? := match arguments with
    | first :: rest =>
      if first = ShapeKeyword.point.name then some rest
      else if word = ShapeKeyword.point.name then some arguments
      else none
    | [] => none
  tokens?.filter (2 ≤ ·.length)

/-- Tokens after the two coordinates are read as well, and then ignored. -/
def readPoint (mode : PositionMode) (word : Text) (arguments : List Text) : Except Setback Shape := do
  let shape := ShapeKeyword.point.name
  match pointTokens? word arguments with
  | none => throw (.complaint (.wrongCount shape))
  | some tokens =>
    match ← quantities shape (fun _ => mode.unit) (· = 1) tokens with
    | x :: y :: _ => return .point ⟨x, y⟩
    | _ => throw (.complaint (.wrongCount shape))

/-- Units of bare numbers by place: a position, a size and an angle. -/
def centeredUnit : Nat → Unit
  | 0 => .degree
  | 1 => .degree
  | 2 => .arcsecond
  | 3 => .arcsecond
  | _ => .degree

/-- Among pixels every place but the last counts pixels. -/
def centeredUnitIn (mode : PositionMode) (count index : Nat) : Unit :=
  if mode.isPixels && index + 1 ≠ count then .pixel else centeredUnit index

/-- A position and a size, with an angle or without one. More arguments would make a ring. -/
def checkCentered (shape : Text) (count : Nat) : Except Complaint PUnit.{1} :=
  if count = 4 || count = 5 then .ok ⟨⟩
  else if 5 < count then .error (.unsupportedForm shape)
  else .error (.wrongCount shape)

/-- The angle in degrees; without one there is none. -/
def angle (shape : Text) (arguments : List Text) (quantities : List Quantity) : Except Complaint Number :=
  match arguments.drop 4, quantities.drop 4 with
  | token :: _, quantity :: _ => (quantity.valueIn? .degree).elim (.error (.notQuantity shape token)) .ok
  | _, _ => .ok 0

structure Centered where
  center : Position
  extent : Extent
  angle : Number

def readCentered (mode : PositionMode) (shape : Text) (arguments : List Text) : Except Setback Centered := do
  (checkCentered shape arguments.length).mapError .complaint
  let place := centeredUnitIn mode arguments.length
  let quantities ← quantities shape place (· = 1) arguments
  let angle ← (angle shape arguments quantities).mapError .complaint
  match quantities with
  | x :: y :: width :: height :: _ => return ⟨⟨x, y⟩, ⟨width, height⟩, angle⟩
  | _ => throw (.complaint (.wrongCount shape))

/-- From the horizontal to the vertical axis; a negative result is brought up by one turn. -/
def fromVertical (angle : Number) : Number :=
  let rotation := angle - 90
  if rotation.below 0 then rotation + 360 else rotation

/-- Radii are compared as they are written, and equal ones leave no rotation. -/
def readEllipse (mode : PositionMode) (arguments : List Text) : Except Setback Shape := do
  let ⟨center, extent, angle⟩ ← readCentered mode ShapeKeyword.ellipse.name arguments
  return .ellipse center extent (if arguments[2]? = arguments[3]? then 0 else fromVertical angle)

/-- A circle is an ellipse with its radius written twice; further arguments are ignored. -/
def readCircle (mode : PositionMode) (arguments : List Text) : Except Setback Shape :=
  match arguments with
  | x :: y :: radius :: _ => readEllipse mode [x, y, radius, radius]
  | _ => .error (.complaint (.wrongCount ShapeKeyword.circle.name))

def readBox (mode : PositionMode) (arguments : List Text) : Except Setback Shape := do
  let ⟨center, extent, angle⟩ ← readCentered mode ShapeKeyword.box.name arguments
  return .box center extent angle

def pairUp : List Quantity → List Position
  | x :: y :: rest => ⟨x, y⟩ :: pairUp rest
  | _ => []

def readPolygon (mode : PositionMode) (arguments : List Text) : Except Setback Shape := do
  if arguments.length % 2 ≠ 0 then throw (.complaint .unpairedVertices)
  if arguments.length / 2 < 3 then throw (.complaint .tooFewVertices)
  let shape := ShapeKeyword.polygon.name
  return .polygon (pairUp (← quantities shape (fun _ => mode.unit) (· % 2 = 1) arguments))

/-- Reads the arguments of a line whose first word is given without its sign. -/
def read (mode : PositionMode) (keyword : ShapeKeyword) (word : Text) (arguments : List Text) :
    Except Setback Shape :=
  match keyword with
  | .point => readPoint mode word arguments
  | .circle => readCircle mode arguments
  | .ellipse => readEllipse mode arguments
  | .box => readBox mode arguments
  | .polygon => readPolygon mode arguments
  | .line => .error (.complaint (.unsupportedShape "line region".toList))
  | .vector => .error (.complaint (.unsupportedShape "vector region".toList))
  | .text => .error (.complaint (.unsupportedShape "text".toList))
  | .annulus => .error (.complaint (.unsupportedShape "annulus region".toList))

end Shape
end SkyRegion
