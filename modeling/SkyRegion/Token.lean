import SkyRegion.Quantity.Reading
import SkyRegion.Setback

/-! Tokens of a region definition read as quantities. A token is a number with at most one unit letter, or
an angle in three parts. The letter is first replaced by the name of its unit, and the second coordinate of
a position has its colons replaced by points, because there they separate degrees and not hours. -/

namespace SkyRegion.Token

open Text

def unitLetters : List (Char × Text) :=
  [('d', "deg".toList), ('r', "rad".toList), ('p', "pixel".toList), ('i', "pixel".toList),
   ('"', "\"".toList), ('\'', "'".toList)]

/-- The text after a numeral with blanks before it. -/
def afterNumeral? (text : Text) : Option Text := (Numeral.scan? (text.dropWhile isBlank)).map (·.2)

def afterPart? (mark : Char) (text : Text) : Option Text :=
  match afterNumeral? text with
  | some (c :: rest) => if c = mark then some rest else none
  | _ => none

/-- Whether a text begins like an angle in three parts. What follows the third is not looked at. -/
def beginsLike (form : SexagesimalForm) (text : Text) : Bool :=
  let (early, late, final) := form.marks
  match afterPart? early text >>= afterPart? late >>= afterNumeral? with
  | some rest => final.isPrefixOf rest
  | none => false

/-- The token with the name of its unit in place of the letter. -/
def nameUnit (shape token : Text) : Except Complaint Text :=
  match afterNumeral? token with
  | none => .error (.notNumeric shape token)
  | some [] => .ok token
  | some [letter] =>
    match unitLetters.lookup letter with
    | some name => .ok (token.dropLast ++ name)
    | none => .error (.unknownUnit shape token)
  | some _ =>
    if beginsLike .colons token || beginsLike .hours token || beginsLike .degrees token then .ok token
    else .error (.unknownUnit shape token)

def dotted (token : Text) : Text := token.map fun c => if c = ':' then '.' else c

def checked (shape : Text) (latitude : Bool) (token : Text) : Except Complaint Text :=
  (nameUnit shape token).map fun named => if latitude then dotted named else named

/-- The quantity of a token; a bare number is given the unit of its place. -/
def quantity [UnitLibrary] (shape : Text) (place : Unit) (latitude : Bool) (token : Text) : Except Setback Quantity := do
  let text ← (checked shape latitude token).mapError .complaint
  match ← (Quantity.read text).mapError (.interruption ∘ .reading) with
  | none => throw (.complaint (.notQuantity shape text))
  | some quantity => return if quantity.unit = .one then { quantity with unit := place } else quantity

end SkyRegion.Token
