import SkyRegion.Number.Reading
import SkyRegion.Quantity.Basic

/-! Angles written in three parts, each a sixtieth of the one before. Colons and the letters h, m, s count
hours of right ascension; the letters d, m, s and the dotted form count degrees. -/

namespace SkyRegion

open Text

/-- What stops a reading altogether, instead of finding that the text is no quantity. -/
inductive ReadingFault where
  | overflow
  | tooManyDigits (digits : Nat)
  | stopped (reason : Text)
  deriving DecidableEq

inductive SexagesimalForm where
  | colons
  | hours
  | degrees
  deriving DecidableEq

namespace SexagesimalForm

def marks : SexagesimalForm → Char × Char × Text
  | .colons => (':', ':', [])
  | .hours => ('h', 'm', ['s'])
  | .degrees => ('d', 'm', ['s'])

def countsHours : SexagesimalForm → Bool
  | .degrees => false
  | _ => true

end SexagesimalForm

structure Sexagesimal where
  form : SexagesimalForm
  sign : Option Sign
  first : Decimal
  second : Decimal
  third : Decimal
  deriving DecidableEq

namespace Sexagesimal

def text (angle : Sexagesimal) : Text :=
  let (early, late, final) := angle.form.marks
  Sign.text angle.sign ++ angle.first.text ++ early :: angle.second.text ++ late :: angle.third.text ++ final

/-- A decimal and the mark after it. -/
def part? (mark : Char) (text : Text) : Option (Decimal × Text) :=
  match Decimal.scan? text with
  | some (decimal, c :: rest) => if c = mark then some (decimal, rest) else none
  | _ => none

/-- Reads a whole text in one form. -/
def read? (form : SexagesimalForm) (text : Text) : Option Sexagesimal := do
  let (early, late, final) := form.marks
  let (sign, rest) := Sign.scan text
  let (first, rest) ← part? early rest
  let (second, rest) ← part? late rest
  let (third, rest) ← Decimal.scan? rest
  guard (rest = final)
  return ⟨form, sign, first, second, third⟩

def ofText? (text : Text) : Option Sexagesimal :=
  read? .colons text <|> read? .hours text <|> read? .degrees text

end Sexagesimal

/-- Degrees, minutes and seconds with points between them. -/
structure DottedAngle where
  sign : Option Sign
  degrees : Text
  minutes : Text
  seconds : Decimal
  deriving DecidableEq

namespace DottedAngle

def text (angle : DottedAngle) : Text :=
  Sign.text angle.sign ++ angle.degrees ++ '.' :: angle.minutes ++ '.' :: angle.seconds.text

/-- Digits and the point after them. -/
def part? (text : Text) : Option (Text × Text) :=
  let digits := text.takeWhile isDigit
  match text.dropWhile isDigit with
  | '.' :: rest => if digits.isEmpty then none else some (digits, rest)
  | _ => none

/-- Reads a whole text. -/
def ofText? (text : Text) : Option DottedAngle := do
  let (sign, rest) := Sign.scan text
  let (degrees, rest) ← part? rest
  let (minutes, rest) ← part? rest
  let (seconds, rest) ← Decimal.scan? rest
  guard (rest.isEmpty && !seconds.whole.isEmpty)
  return ⟨sign, degrees, minutes, seconds⟩

/-- The parts are added without any range check. -/
def toDegrees (angle : DottedAngle) : Except ReadingFault Number := do
  let integer (digits : Text) : Except ReadingFault Nat :=
    if digitLimit < digits.length then .error (.tooManyDigits digits.length) else .ok digits.digitsValue
  let rounded (value : Nat) : Except ReadingFault Number :=
    (Floating.ofInt? value).elim (.error .overflow) .ok
  let degrees ← integer angle.degrees
  let minutes ← integer angle.minutes
  let minutes ← rounded minutes
  let degrees ← rounded degrees
  let sum := degrees + minutes / 60 + angle.seconds.toNumber / 3600
  return if Sign.isMinus angle.sign then -sum else sum

end DottedAngle
end SkyRegion
