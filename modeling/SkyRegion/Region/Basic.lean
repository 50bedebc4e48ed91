import SkyRegion.Number.Floating
import SkyRegion.Text.Basic

/-! Regions of an image. Points count pixels, and the rotation is measured in degrees from the vertical
axis. How many points a region has is settled by its kind. -/

namespace SkyRegion

open Text

structure Point where
  x : Number
  y : Number
  deriving DecidableEq

inductive RegionKind where
  | point
  | rectangle
  | ellipse
  | polygon
  deriving DecidableEq

namespace RegionKind

def all : List RegionKind := [.point, .rectangle, .ellipse, .polygon]

def name : RegionKind → Text
  | .point => "point".toList
  | .rectangle => "rectangle".toList
  | .ellipse => "ellipse".toList
  | .polygon => "polygon".toList

def ofName? (name : Text) : Option RegionKind := all.find? (·.name = name)

/-- Boxes and ellipses have a centre and a size. -/
def fits : RegionKind → Nat → Bool
  | .point, count => count = 1
  | .rectangle, count => count = 2
  | .ellipse, count => count = 2
  | .polygon, count => 3 ≤ count

end RegionKind

structure Region where
  kind : RegionKind
  points : List Point
  rotation : Number
  name : Text
  fileId : Int
  deriving DecidableEq

namespace Region

/-- A count of points that does not fit the kind. -/
structure CountFault where
  kind : RegionKind
  count : Nat
  deriving DecidableEq

namespace CountFault

def message (fault : CountFault) : Text :=
  let needed := match fault.kind with
    | .polygon => "polygon needs at least 3 control points".toList
    | .point => "point needs exactly 1 control point(s)".toList
    | kind => kind.name ++ " needs exactly 2 control point(s)".toList
  needed ++ ", got ".toList ++ Text.ofNat fault.count

end CountFault

def check (region : Region) : Except CountFault Region :=
  if region.kind.fits region.points.length then .ok region
  else .error ⟨region.kind, region.points.length⟩

def center? (region : Region) : Option Point := region.points.head?

/-- An ellipse whose two radii are equal numbers. -/
def isCircle (region : Region) : Bool :=
  match region.kind, region.points with
  | .ellipse, _ :: size :: _ => size.x.same size.y
  | _, _ => false

end Region
end SkyRegion
