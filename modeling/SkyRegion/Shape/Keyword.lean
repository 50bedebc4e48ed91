import SkyRegion.Text.Basic

/-! Words that name the shape of a region. A line is taken by the first shape that accepts it, so the order
of the list matters: a point may follow a word that describes its marker, whatever that word is. -/

namespace SkyRegion

open Text

inductive ShapeKeyword where
  | point
  | circle
  | ellipse
  | box
  | polygon
  | line
  | vector
  | text
  | annulus
  deriving DecidableEq

namespace ShapeKeyword

def all : List ShapeKeyword := [.point, .circle, .ellipse, .box, .polygon, .line, .vector, .text, .annulus]

def name : ShapeKeyword → Text
  | .point => "point".toList
  | .circle => "circle".toList
  | .ellipse => "ellipse".toList
  | .box => "box".toList
  | .polygon => "polygon".toList
  | .line => "line".toList
  | .vector => "vector".toList
  | .text => "text".toList
  | .annulus => "annulus".toList

/-- A shape accepts every first word that its name is part of. -/
def accepts (keyword : ShapeKeyword) (word : Text) (arguments : List Text) : Bool :=
  holds keyword.name word || (keyword = .point && arguments.head? = some keyword.name)

def ofLine? (word : Text) (arguments : List Text) : Option ShapeKeyword :=
  all.find? (·.accepts word arguments)

end ShapeKeyword
end SkyRegion
