import SkyRegion.CommonUnits.Expression
import SkyRegion.Quantity.Library

/-! A library of units for examples and for running the program. It knows the units that region files and images
use, and products of metres, seconds, hours and days. -/

namespace SkyRegion.CommonUnits

def names : List (Text × Unit) :=
  [("pixel".toList, .pixel), ("pix".toList, .pixel), ("deg".toList, .degree), ("rad".toList, .radian),
   ("arcsec".toList, .arcsecond), ("arcmin".toList, .arcminute), ("hourangle".toList, .hourAngle),
   ("m".toList, .metre)]

/-- A product without a number in front is measured as part of the reading: if that fails, or nothing is left,
the text is no unit. With a number in front it is measured once it has been read. -/
def ofLexemes (lexemes : List UnitLexeme) : Except ReadingFault (Option Unit) :=
  match UnitLexeme.withoutMarks? lexemes >>= leading? with
  | none => .ok none
  | some (none, rest) =>
    .ok do return (← UnitProduct.measurePresent? (← UnitProduct.ofFactors? (← powers? rest))).toUnit
  | some (some scale, rest) =>
    let product? := if rest.isEmpty then some [] else powers? rest >>= UnitProduct.ofFactors?
    match product? with
    | none => .ok none
    | some product =>
      if scale.same 0 then .ok none
      else
        match UnitProduct.measure? (CompoundUnit.settled scale {}).scale product with
        | none => .error .overflow
        | some unit => .ok (some unit.toUnit)

/-- A unit by its name, which is case-sensitive, or else spelled out. -/
def unit (text : Text) : Except ReadingFault (Option Unit) :=
  match names.lookup text, UnitLexeme.listAfter? 0 text with
  | some unit, _ => .ok (some unit)
  | none, some lexemes => ofLexemes lexemes
  | none, none => .ok none

/-- A first part beyond every double is noticed before the ranges are. -/
def degrees (angle : Sexagesimal) : Except ReadingFault (Option Number) :=
  if !(angle.first.isInteger && angle.second.isInteger && angle.isReadable) then .ok none
  else
    match (Floating.ofInt? angle.first.whole.digitsValue : Option Number) with
    | none => .error .overflow
    | some _ =>
      if !angle.isInRange then .ok none
      else .ok (Quantity.valueIn? ⟨angle.sum, if angle.form.countsHours then .hourAngle else .degree⟩ .degree)

scoped instance : UnitLibrary := ⟨unit, degrees⟩

end SkyRegion.CommonUnits
