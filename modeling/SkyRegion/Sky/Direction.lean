import SkyRegion.Sky.Coordinates
import SkyRegion.Sky.Trigonometry

/-! Directions on the sky as unit vectors, and the rotations between reference systems. The galactic system
is reached by way of the fundamental catalogue. -/

namespace SkyRegion.Sky

structure Vector where
  x : Float
  y : Float
  z : Float

namespace Vector

def dot (a b : Vector) : Float := a.x * b.x + a.y * b.y + a.z * b.z

end Vector

/-- A matrix by its rows. -/
structure Rotation where
  first : Vector
  second : Vector
  third : Vector

namespace Rotation

def apply (rotation : Rotation) (v : Vector) : Vector :=
  ⟨rotation.first.dot v, rotation.second.dot v, rotation.third.dot v⟩

def transpose (rotation : Rotation) : Rotation :=
  let ⟨a, b, c⟩ := rotation
  ⟨⟨a.x, b.x, c.x⟩, ⟨a.y, b.y, c.y⟩, ⟨a.z, b.z, c.z⟩⟩

def icrsToFk5 : Rotation :=
  ⟨⟨0.9999999999999928, -1.110223329740834e-07, -4.411804498096776e-08⟩,
   ⟨1.1102233723050031e-07, 0.9999999999999891, 9.64779225407974e-08⟩,
   ⟨4.411803426976324e-08, -9.647792743888517e-08, 0.9999999999999943⟩⟩

def fk5ToGalactic : Rotation :=
  ⟨⟨-0.054875539395714525, -0.8734371047274332, -0.4838349917703224⟩,
   ⟨0.49410945362336345, -0.44482959429881663, 0.74698224870205⟩,
   ⟨-0.8676661356858694, -0.1980763896109499, 0.4559837945175692⟩⟩

end Rotation

/-- Longitude and latitude in degrees. -/
structure Direction where
  longitude : Float
  latitude : Float

namespace Direction

def toVector (direction : Direction) : Vector :=
  let longitude := radians direction.longitude
  let latitude := radians direction.latitude
  ⟨latitude.cos * longitude.cos, latitude.cos * longitude.sin, latitude.sin⟩

def ofVector (v : Vector) : Direction :=
  let longitude := wrap (.ofFloat (radians 360)) (.ofFloat (Float.atan2 v.y v.x))
  ⟨degrees longitude.toFloat, degrees (Float.atan2 v.z (v.x * v.x + v.y * v.y).sqrt)⟩

end Direction

namespace System

/-- The system of positions in a frame of a region file, if they can be placed on an image. -/
def ofFrame? : Frame → Option System
  | .j2000 => some .fk5
  | .b1950 => some .fk4
  | .galactic => some .galactic
  | .icrs => some .icrs
  | _ => none

/-- The same direction in another system, where the change is known. Directions of the fundamental catalogue
are taken through their vectors even when they stay in it. -/
def change? (source target : System) (direction : Direction) : Option Direction :=
  let turn (rotations : List Rotation) : Direction :=
    .ofVector (rotations.foldl (fun v rotation => rotation.apply v) direction.toVector)
  match source, target with
  | .fk5, .fk5 => some (turn [])
  | .icrs, .fk5 => some (turn [.icrsToFk5])
  | .fk5, .icrs => some (turn [Rotation.icrsToFk5.transpose])
  | .fk5, .galactic => some (turn [.fk5ToGalactic])
  | .galactic, .fk5 => some (turn [Rotation.fk5ToGalactic.transpose])
  | .icrs, .galactic => some (turn [.icrsToFk5, .fk5ToGalactic])
  | .galactic, .icrs => some (turn [Rotation.fk5ToGalactic.transpose, Rotation.icrsToFk5.transpose])
  | source, target => if source = target then some direction else none

end System
end SkyRegion.Sky
