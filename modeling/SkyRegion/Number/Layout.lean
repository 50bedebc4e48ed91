import SkyRegion.Number.Shortest

/-! Where the point goes when the shortest digits of a number are written out. Angles never use an
exponent and drop a point with nothing after it. A number shown inside a message keeps one place at
least, and changes to an exponent below `0.0001` and from `1e16` on. -/

namespace SkyRegion

/-- Significant digits without trailing zeros, and how many of them stand before the point. -/
structure PlacedDigits where
  digits : Text
  point : Int
  deriving DecidableEq

namespace PlacedDigits

def ofScaled (written : ScaledDigits) : PlacedDigits :=
  let digits := Text.ofNat written.digits
  ⟨(digits.reverse.dropWhile (· = '0')).reverse, digits.length + written.scale⟩

/-- The digits before the point, of which there is at least one, and those after it. -/
def split (placed : PlacedDigits) : Text × Text :=
  if placed.point ≤ 0 then (['0'], List.replicate (-placed.point).toNat '0' ++ placed.digits)
  else
    let before := placed.point.toNat
    let zeros := List.replicate (before - placed.digits.length) '0'
    (placed.digits.take before ++ zeros, placed.digits.drop before)

/-- One digit before the point, and an exponent of two digits at least. -/
def scientific (placed : PlacedDigits) : Text :=
  let power := placed.point - 1
  let magnitude := Text.ofNat power.natAbs
  placed.digits.take 1 ++ (if placed.digits.length ≤ 1 then [] else '.' :: placed.digits.drop 1) ++
    (if power < 0 then ['e', '-'] else ['e', '+']) ++
    List.replicate (2 - magnitude.length) '0' ++ magnitude

end PlacedDigits

namespace Floating

variable {format : BinaryFormat}

/-- Shortest text in a given layout; the layout sees finite magnitudes only. -/
def textWith (layout : PlacedDigits → Text) : Floating format → Text
  | .nan => "nan".toList
  | .infinite negative => (if negative then "-inf" else "inf").toList
  | x@(.finite negative ..) => (if negative then ['-'] else []) ++ layout (.ofScaled x.shortest)

def positional (x : Floating format) : Text :=
  x.textWith fun placed =>
    let (whole, fraction) := placed.split
    whole ++ if fraction.isEmpty then [] else '.' :: fraction

end Floating

namespace Number

def describe (x : Number) : Text :=
  x.textWith fun placed =>
    if -4 < placed.point && placed.point ≤ 16 then
      let (whole, fraction) := placed.split
      whole ++ '.' :: if fraction.isEmpty then ['0'] else fraction
    else placed.scientific

/-- Angles are written with the precision of the single format. -/
def angleText (angle : Number) : Text := (angle.convert : Floating .single).positional

end Number
end SkyRegion
