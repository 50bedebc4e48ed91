import SkyRegion.Number.Numeral
import SkyRegion.Text.Blank

/-! Whole texts read as numbers. Around a number blanks are dropped, except the four information
separators, and between two digits an underscore may group them. -/

namespace SkyRegion

open Text

namespace Text

def isNumericBlank (c : Char) : Bool := isBlank c && !(0x1C ≤ c.toNat && c.toNat ≤ 0x1F)

/-- Removes the underscores, each of which has a digit on either side. -/
def ungroup? (afterDigit : Bool) : Text → Option Text
  | [] => some []
  | '_' :: c :: rest => if afterDigit && isDigit c then (ungroup? true rest).map (c :: ·) else none
  | '_' :: [] => none
  | c :: rest => (ungroup? (isDigit c) rest).map (c :: ·)

end Text

namespace Number

/-- Names of the numbers that digits cannot write, in any mixture of cases. -/
def named? (name : Text) (negative : Bool) : Option Number :=
  let name := name.map Char.toLower
  if name = "inf".toList || name = "infinity".toList then some (.infinite negative)
  else if name = "nan".toList then some .nan
  else none

def ofText? (text : Text) : Option Number := do
  let text ← (trimWhere isNumericBlank text).ungroup? false
  let (sign, rest) := Sign.scan text
  match named? rest (Sign.isMinus sign) with
  | some number => some number
  | none =>
    match Numeral.scan? text with
    | some (numeral, []) => some numeral.toNumber
    | _ => none

end Number

/-- Longest run of digits that is read or written as an integer. -/
def digitLimit : Nat := 4300

inductive IntegerFault where
  | malformed
  | tooLong (digits : Nat)
  deriving DecidableEq

namespace IntegerFault

def lengthMessage (digits : Nat) : Text :=
  "Exceeds the limit (4300 digits) for integer string conversion: value has ".toList ++ Text.ofNat digits ++
    " digits; use sys.set_int_max_str_digits() to increase the limit".toList

def writingMessage : Text :=
  ("Exceeds the limit (4300 digits) for integer string conversion; " ++
    "use sys.set_int_max_str_digits() to increase the limit").toList

end IntegerFault

namespace Text

/-- A run of digits read as an integer. -/
def readNat (digits : Text) : Except IntegerFault Nat :=
  if digitLimit < digits.length then .error (.tooLong digits.length) else .ok digits.digitsValue

/-- Digits with single underscores between them, and the text after the last digit or underscore. -/
def groupedDigits (text : Text) : Text × Text :=
  let inGroup c := isDigit c || c = '_'
  (text.takeWhile inGroup, text.dropWhile inGroup)

/-- The length of the leading run is judged before what follows it. -/
def readInt (text : Text) : Except IntegerFault Int := do
  let (sign, rest) := Sign.scan (trimWhere isNumericBlank text)
  let (run, rest) := groupedDigits rest
  match run.ungroup? false with
  | none => throw .malformed
  | some digits =>
    let value ← digits.readNat
    if digits.isEmpty || !rest.isEmpty then throw .malformed
    return if Sign.isMinus sign then -value else value

end Text
end SkyRegion
