import SkyRegion.Text.Blank
import SkyRegion.Text.LowerCase

/-! Reference frames of positions in a region file, and the keywords that declare them. -/

namespace SkyRegion

open Text

inductive Frame where
  | pixel
  | b1950
  | j2000
  | galactic
  | ecliptic
  | icrs
  | unsupported
  deriving DecidableEq, Inhabited

namespace Frame

/-- The name that images know a frame by; pixels have none. -/
def name : Frame → Text
  | .pixel => []
  | .b1950 => "B1950".toList
  | .j2000 => "J2000".toList
  | .galactic => "GALACTIC".toList
  | .ecliptic => "ECLIPTIC".toList
  | .icrs => "ICRS".toList
  | .unsupported => "UNSUPPORTED".toList

/-- Keywords with a frame of their own, in alphabetical order. -/
def keywords : List (Text × Frame) :=
  [("b1950".toList, .b1950), ("ecliptic".toList, .ecliptic), ("fk4".toList, .b1950), ("fk5".toList, .j2000),
   ("galactic".toList, .galactic), ("icrs".toList, .icrs), ("image".toList, .pixel), ("j2000".toList, .j2000),
   ("linear".toList, .unsupported), ("physical".toList, .pixel), ("wcs".toList, .unsupported),
   ("wcsa".toList, .unsupported)]

/-- Further keywords that declare a frame nothing is known about. -/
def otherKeywords : List Text :=
  "amplifier".toList :: "detector".toList :: ("bcdefghijklmnopqrstuvwxyz".toList.map ("wcs".toList ++ [·]))

/-- The spelling in which keywords are compared. -/
def keywordOf (line : Text) : Text := line.trim.lower

def ofKeyword (keyword : Text) : Frame := (keywords.lookup keyword).getD .unsupported

/-- Whether a line is nothing but a frame keyword. -/
def isDeclaration (line : Text) : Bool :=
  let keyword := keywordOf line
  (keywords.lookup keyword).isSome || otherKeywords.contains keyword

/-- The keyword that declares the frame of an image, or nothing when the image has no frame with a
keyword. Of several keywords the first is taken, except that a frame of the fundamental catalogues is
written as the catalogue. -/
def writtenKeyword (imageFrame : Text) : Text :=
  if imageFrame = b1950.name then "fk4".toList
  else if imageFrame = j2000.name then "fk5".toList
  else if imageFrame = pixel.name then []
  else ((keywords.find? fun (_, frame) => frame.name = imageFrame).map (·.1)).getD []

end Frame
end SkyRegion
