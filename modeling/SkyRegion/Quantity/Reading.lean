import SkyRegion.Quantity.Library

/-! Texts read as quantities: an angle in three parts, or a number with a unit after it. A bare number has
no unit, and its reader supplies one. -/

namespace SkyRegion

open Text

variable [UnitLibrary]

namespace Unit

/-- Names that are looked up before the library is asked. -/
def aliases : List (Text × Unit) :=
  [("\"".toList, .arcsecond), ("'".toList, .arcminute), ("pixel".toList, .pixel)]

def read (text : Text) : Except ReadingFault (Option Unit) :=
  match aliases.lookup text with
  | some unit => .ok (some unit)
  | none => UnitLibrary.unit text

end Unit

namespace Quantity

/-- A number and its unit. The unit must end with the line it begins on. -/
def readNumberAndUnit (text : Text) : Except ReadingFault (Option Quantity) :=
  match Numeral.scan? text with
  | none => .ok none
  | some (numeral, rest) =>
    if rest.contains '\n' then .ok none
    else if rest.trim.isEmpty then .ok (some ⟨numeral.toNumber, .one⟩)
    else do return (← Unit.read rest.trim).map (⟨numeral.toNumber, ·⟩)

def read (text : Text) : Except ReadingFault (Option Quantity) :=
  let text := text.trim
  match Sexagesimal.ofText? text, DottedAngle.ofText? text with
  | some angle, _ => do return (← UnitLibrary.degrees angle).map (⟨·, .degree⟩)
  | none, some angle => do return some ⟨← angle.toDegrees, .degree⟩
  | none, none => readNumberAndUnit text

end Quantity
end SkyRegion
