import SkyRegion.Quantity.Sexagesimal

/-! What is left to a library of units: which texts are units, and how many degrees an angle in three parts is. A
library answers every text, but it may find nothing there, and it may stop the reading altogether. -/

namespace SkyRegion

open Text

class UnitLibrary where
  /-- The unit that a text spells, as what it amounts to: equal units are one unit, however they are spelled. To find
  out whether a unit equals another may itself stop the reading. -/
  unit : Text → Except ReadingFault (Option Unit)
  /-- The degrees of an angle that is well-formed but may have parts that no angle has. -/
  degrees : Sexagesimal → Except ReadingFault (Option Number)

namespace Sexagesimal

/-- Whether every part without a point is short enough to be read as an integer. -/
def isReadable (angle : Sexagesimal) : Bool :=
  let short (part : Decimal) := !part.isInteger || part.whole.length ≤ digitLimit
  short angle.first && short angle.second && short angle.third

/-- Hours reach 24, minutes and seconds reach 60, and those ends are included; degrees have no end. -/
def isInRange (angle : Sexagesimal) : Bool :=
  (!angle.form.countsHours || angle.first.whole.digitsValue ≤ 24) &&
    angle.second.whole.digitsValue ≤ 60 && !Floating.below 60 angle.third.toNumber

/-- The first two parts are whole, and no part is beyond its bounds. -/
def isProper (angle : Sexagesimal) : Bool :=
  angle.first.isInteger && angle.second.isInteger && angle.isReadable && angle.isInRange

/-- The parts added up, in the unit of the first. -/
def sum (angle : Sexagesimal) : Number :=
  let second : Number := .ofInt angle.second.whole.digitsValue
  let sum := .ofInt angle.first.whole.digitsValue + second / 60 + angle.third.toNumber / 3600
  if Sign.isMinus angle.sign then -sum else sum

end Sexagesimal

/-- What is known of the answers of a library, as far as anything rests on it. -/
class LawfulUnitLibrary [UnitLibrary] : Prop where
  unit_deg : UnitLibrary.unit "deg".toList = .ok (some .degree)
  unit_rad : UnitLibrary.unit "rad".toList = .ok (some .radian)
  /-- No unit begins with a colon. -/
  unit_colon (rest : Text) : UnitLibrary.unit (':' :: rest) = .ok none
  /-- Digits are no unit with two points among them. -/
  unit_points {text : Text} (digits : ∀ c ∈ text, isDigit c = true ∨ c = '.') (points : 2 ≤ text.count '.') :
    UnitLibrary.unit text = .ok none
  /-- Letters for degrees, minutes and seconds are the sum of their parts, if the parts are those of an angle. -/
  degrees_letters {angle : Sexagesimal} (letters : angle.form = .degrees) {degrees? : Option Number}
    (answered : UnitLibrary.degrees angle = .ok degrees?) : degrees? = if angle.isProper then some angle.sum else none

end SkyRegion
