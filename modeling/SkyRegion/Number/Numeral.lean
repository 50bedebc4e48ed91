import SkyRegion.Number.Floating
import SkyRegion.Text.Digit

/-! Written decimal numbers. A numeral keeps the characters it was written with, so that a token can be
quoted exactly in a message; its value is a separate question. Scanning takes the longest numeral: what
follows a numeral in the grammars built on it never begins like the rest of a number. -/

namespace SkyRegion

open Text

inductive Sign where
  | plus
  | minus
  deriving DecidableEq

namespace Sign

def mark : Sign → Char
  | .plus => '+'
  | .minus => '-'

def scan : Text → Option Sign × Text
  | '+' :: rest => (some .plus, rest)
  | '-' :: rest => (some .minus, rest)
  | text => (none, text)

def text (sign : Option Sign) : Text := (sign.map mark).toList

def isMinus (sign : Option Sign) : Bool := sign = some .minus

end Sign

/-- Value of a run of digits of any script. -/
def Text.digitsValue (digits : Text) : Nat :=
  digits.foldl (fun value c => 10 * value + (digitValue? c).getD 0) 0

/-- An unsigned number: digits, and digits after a point if there is one. -/
structure Decimal where
  whole : Text
  fraction : Option Text
  deriving DecidableEq

namespace Decimal

def text (decimal : Decimal) : Text :=
  decimal.whole ++ match decimal.fraction with
    | some digits => '.' :: digits
    | none => []

/-- Digits stand on at least one side of the point. -/
def scan? (text : Text) : Option (Decimal × Text) :=
  let whole := text.takeWhile isDigit
  match text.dropWhile isDigit with
  | '.' :: rest =>
    let fraction := rest.takeWhile isDigit
    if whole.isEmpty && fraction.isEmpty then none
    else some (⟨whole, some fraction⟩, rest.dropWhile isDigit)
  | rest => if whole.isEmpty then none else some (⟨whole, none⟩, rest)

def isInteger (decimal : Decimal) : Bool := decimal.fraction.isNone

def digits (decimal : Decimal) : Text := decimal.whole ++ decimal.fraction.getD []

def places (decimal : Decimal) : Nat := (decimal.fraction.getD []).length

def toNumber (decimal : Decimal) : Number :=
  .ofDecimal false decimal.digits.digitsValue (-decimal.places)

end Decimal

structure Exponent where
  mark : Char
  sign : Option Sign
  digits : Text
  deriving DecidableEq

namespace Exponent

def text (exponent : Exponent) : Text := exponent.mark :: Sign.text exponent.sign ++ exponent.digits

def value (exponent : Exponent) : Int :=
  if Sign.isMinus exponent.sign then -exponent.digits.digitsValue else exponent.digits.digitsValue

/-- A mark without digits after it is no exponent, and is left in the rest. -/
def scan (text : Text) : Option Exponent × Text :=
  match text with
  | mark :: rest =>
    let (sign, rest) := Sign.scan rest
    let digits := rest.takeWhile isDigit
    if (mark = 'e' || mark = 'E') && !digits.isEmpty then
      (some ⟨mark, sign, digits⟩, rest.dropWhile isDigit)
    else (none, text)
  | [] => (none, [])

end Exponent

structure Numeral where
  sign : Option Sign
  decimal : Decimal
  exponent : Option Exponent
  deriving DecidableEq

namespace Numeral

def text (numeral : Numeral) : Text :=
  Sign.text numeral.sign ++ numeral.decimal.text ++ match numeral.exponent with
    | some exponent => exponent.text
    | none => []

def scan? (text : Text) : Option (Numeral × Text) := do
  let (sign, rest) := Sign.scan text
  let (decimal, rest) ← Decimal.scan? rest
  let (exponent, rest) := Exponent.scan rest
  return (⟨sign, decimal, exponent⟩, rest)

def toNumber (numeral : Numeral) : Number :=
  let shift := match numeral.exponent with
    | some exponent => exponent.value
    | none => 0
  .ofDecimal (Sign.isMinus numeral.sign) numeral.decimal.digits.digitsValue (shift - numeral.decimal.places)

end Numeral
end SkyRegion
