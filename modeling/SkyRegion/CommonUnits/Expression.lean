import SkyRegion.Number.Reading
import SkyRegion.Text.Word
import SkyRegion.CommonUnits.Product

/-! Unit texts that are no single name: a number, then units by their symbols, each with a whole power after
it. Units are multiplied by standing side by side or with a mark between them. Spaces separate and are
otherwise ignored. -/

namespace SkyRegion

open Text

inductive UnitLexeme where
  | number (numeral : Numeral)
  | letters (run : Text)
  | times

namespace UnitLexeme

def length : UnitLexeme → Nat
  | .number numeral => numeral.text.length
  | .letters run => run.length
  | .times => 1

/-- The lexeme at the front of a text. A sign belongs to a number only if a digit follows at once, and a
point is a mark where it begins no number. -/
def first? (text : Text) : Option UnitLexeme :=
  let isLetter c := isWord c && !isDigit c
  match text with
  | [] => none
  | c :: rest =>
    if isLetter c then some (.letters (text.takeWhile isLetter))
    else if (c = '+' || c = '-') && !rest.head?.any isDigit then none
    else
      match Numeral.scan? text with
      | some (numeral, _) => some (.number numeral)
      | none => if c = '.' || c = '*' && rest.head? ≠ some '*' then some .times else none

/-- All lexemes in order; the number counts the characters of the current one still to be passed over. -/
def listAfter? : Nat → Text → Option (List UnitLexeme)
  | _, [] => some []
  | pending + 1, _ :: rest => listAfter? pending rest
  | 0, c :: rest =>
    if c = ' ' then listAfter? 0 rest
    else do
      let lexeme ← first? (c :: rest)
      return lexeme :: (← listAfter? (lexeme.length - 1) rest)

/-- The lexemes without their marks, each of which must stand before a symbol and after something. -/
def withoutMarks? : List UnitLexeme → Option (List UnitLexeme)
  | [] => some []
  | .times :: _ => none
  | lexeme :: .times :: .letters run :: rest => do return lexeme :: (← withoutMarks? (.letters run :: rest))
  | lexeme :: rest => do return lexeme :: (← withoutMarks? rest)

end UnitLexeme

namespace Numeral

/-- Written without fraction digits and without an exponent; a bare point is harmless. -/
def isWhole (numeral : Numeral) : Bool :=
  (numeral.decimal.fraction.getD []).isEmpty && numeral.exponent.isNone

def whole? (numeral : Numeral) : Option Int := do
  guard numeral.isWhole
  let value ← numeral.decimal.whole.readNat.toOption
  return if Sign.isMinus numeral.sign then -value else value

/-- The value as the scale of a unit. A whole number has to fit a double. -/
def scale? (numeral : Numeral) : Option Number :=
  if numeral.isWhole then numeral.whole? >>= Floating.ofInt? else some numeral.toNumber

/-- A power of an unsigned whole number, whose exponent is written with a sign. -/
def raised? (base exponent : Numeral) : Option Number := do
  guard (base.isWhole && base.sign.isNone && exponent.sign.isSome)
  (← base.scale?).power? (← exponent.whole?)

end Numeral

namespace CommonUnits

/-- The number in front, if there is one, and the rest. It may be a power of ten, or one number times a power
of another. -/
def leading? : List UnitLexeme → Option (Option Number × List UnitLexeme)
  | .number first :: .number base :: .number exponent :: rest => do
    return (some ((← first.scale?) * (← base.raised? exponent)), rest)
  | .number base :: .number exponent :: rest => do
    guard (base.whole? = some 10)
    return (some (← base.raised? exponent), rest)
  | .number first :: rest => do return (some (← first.scale?), rest)
  | rest => some (none, rest)

def powers? : List UnitLexeme → Option (List UnitPower)
  | [] => some []
  | .letters symbol :: .number power :: rest => do
    return ⟨← SimpleUnit.ofSymbol? symbol, ← power.whole?⟩ :: (← powers? rest)
  | .letters symbol :: rest => do return ⟨← SimpleUnit.ofSymbol? symbol, 1⟩ :: (← powers? rest)
  | _ => none

end CommonUnits
end SkyRegion
