import SkyRegion.Number.Rounding

/-! Binary floating-point numbers with signed zeros, infinities and one not-a-number. A finite number is
kept in its only canonical form, so equal data means equal numbers up to the sign of zero. Operations act
on exact rationals and round once, to the nearest number, with ties to the even significand. -/

namespace SkyRegion

structure BinaryFormat where
  precision : Nat
  least : Int
  greatest : Int
  deriving DecidableEq

namespace BinaryFormat

def double : BinaryFormat := ⟨53, -1074, 971⟩

def single : BinaryFormat := ⟨24, -149, 104⟩

/-- The significand fits, and it is short only where the exponent can go no lower. -/
def Canonical (format : BinaryFormat) (significand : Nat) (exponent : Int) : Prop :=
  significand < Nat.pow 2 format.precision ∧ format.least ≤ exponent ∧ exponent ≤ format.greatest ∧
    (Nat.pow 2 (format.precision - 1) ≤ significand ∨ exponent = format.least)

instance (format : BinaryFormat) (significand : Nat) (exponent : Int) :
    Decidable (format.Canonical significand exponent) := by
  unfold Canonical
  infer_instance

end BinaryFormat

inductive Floating (format : BinaryFormat) where
  | nan
  | infinite (negative : Bool)
  | finite (negative : Bool) (significand : Nat) (exponent : Int)
      (canonical : format.Canonical significand exponent)
  deriving DecidableEq

abbrev Number := Floating .double

namespace Floating

variable {format : BinaryFormat}

/-- Parts that fit no finite number are too large for one. -/
def ofParts (negative : Bool) (significand : Nat) (exponent : Int) : Floating format :=
  if canonical : format.Canonical significand exponent then .finite negative significand exponent canonical
  else .infinite negative

def zero (negative : Bool) : Floating format := ofParts negative 0 format.least

instance : Inhabited (Floating format) := ⟨zero false⟩

/-- The number nearest to a magnitude, with a sign of its own so that zero keeps one. -/
def ofMagnitude (negative : Bool) (magnitude : Rat) : Floating format :=
  if magnitude = 0 then zero negative
  else
    let exponent := max format.least (Rounding.binade magnitude - (format.precision - 1))
    let significand := (Rounding.nearestEven (magnitude / 2 ^ exponent)).toNat
    if significand = Nat.pow 2 format.precision then
      ofParts negative (Nat.pow 2 (format.precision - 1)) (exponent + 1)
    else ofParts negative significand exponent

def magnitude : Floating format → Rat
  | .finite _ significand exponent _ => significand * 2 ^ exponent
  | _ => 0

def isNegative : Floating format → Bool
  | .finite negative .. => negative
  | .infinite negative => negative
  | .nan => false

def isFinite : Floating format → Bool
  | .finite .. => true
  | _ => false

def isNan : Floating format → Bool
  | .nan => true
  | _ => false

/-- The exact value of a finite number. -/
def toRat (x : Floating format) : Rat := if x.isNegative then -x.magnitude else x.magnitude

def ofRat (value : Rat) : Floating format :=
  if value < 0 then ofMagnitude true (-value) else ofMagnitude false value

def ofInt (value : Int) : Floating format := ofRat value

/-- An integer that rounds to a finite number. -/
def ofInt? (value : Int) : Option (Floating format) :=
  let number := ofInt value
  if number.isFinite then some number else none

/-- The same value in another format, rounded once. -/
def convert {target : BinaryFormat} : Floating format → Floating target
  | .nan => .nan
  | .infinite negative => .infinite negative
  | x@(.finite negative ..) => ofMagnitude negative x.magnitude

/-- The integer part of a finite number, cut toward zero. -/
def truncate (x : Floating format) : Int :=
  if x.isNegative then -x.magnitude.floor else x.magnitude.floor

def neg : Floating format → Floating format
  | .nan => .nan
  | .infinite negative => .infinite (!negative)
  | .finite negative significand exponent canonical => .finite (!negative) significand exponent canonical

/-- A sum that cancels is a positive zero, unless both terms are negative zeros. -/
def add : Floating format → Floating format → Floating format
  | .nan, _ => .nan
  | _, .nan => .nan
  | .infinite first, .infinite second => if first = second then .infinite first else .nan
  | .infinite first, .finite .. => .infinite first
  | .finite .., .infinite second => .infinite second
  | x@(.finite first ..), y@(.finite second ..) =>
    let sum := x.toRat + y.toRat
    if sum = 0 then zero (first && second) else ofRat sum

def sub (x y : Floating format) : Floating format := x.add y.neg

def mul : Floating format → Floating format → Floating format
  | .nan, _ => .nan
  | _, .nan => .nan
  | x@(.finite first ..), y@(.finite second ..) => ofMagnitude (first != second) (x.magnitude * y.magnitude)
  | .infinite first, .infinite second => .infinite (first != second)
  | .infinite first, y@(.finite second ..) =>
    if y.magnitude = 0 then .nan else .infinite (first != second)
  | x@(.finite first ..), .infinite second =>
    if x.magnitude = 0 then .nan else .infinite (first != second)

def div : Floating format → Floating format → Floating format
  | .nan, _ => .nan
  | _, .nan => .nan
  | x@(.finite first ..), y@(.finite second ..) =>
    if y.magnitude = 0 then if x.magnitude = 0 then .nan else .infinite (first != second)
    else ofMagnitude (first != second) (x.magnitude / y.magnitude)
  | .infinite _, .infinite _ => .nan
  | .infinite first, .finite second .. => .infinite (first != second)
  | .finite first .., .infinite second => zero (first != second)

instance : Neg (Floating format) := ⟨neg⟩
instance : Add (Floating format) := ⟨add⟩
instance : Sub (Floating format) := ⟨sub⟩
instance : Mul (Floating format) := ⟨mul⟩
instance : Div (Floating format) := ⟨div⟩

instance (n : Nat) : OfNat (Floating format) n := ⟨ofInt n⟩

/-- Not-a-number is below nothing, and the two zeros are not below each other. -/
def below : Floating format → Floating format → Bool
  | .nan, _ => false
  | _, .nan => false
  | .infinite first, .infinite second => first && !second
  | .infinite first, .finite .. => first
  | .finite .., .infinite second => !second
  | x@(.finite ..), y@(.finite ..) => x.toRat < y.toRat

/-- Numerical equality: zeros of both signs are equal and not-a-number equals nothing. -/
def same : Floating format → Floating format → Bool
  | .infinite first, .infinite second => first == second
  | x@(.finite ..), y@(.finite ..) => x.toRat == y.toRat
  | _, _ => false

def abs (x : Floating format) : Floating format := if x.isNegative then -x else x

end Floating

namespace Number

/-- The double nearest to `digits · 10 ^ scale`. The two guards answer at once where the exponent alone
decides: `10 ^ 400` is beyond every double, and nothing under `10 ^ (-400)` is distinct from zero. -/
def ofDecimal (negative : Bool) (digits : Nat) (scale : Int) : Number :=
  if digits = 0 then .zero negative
  else if 400 ≤ scale then .infinite negative
  else if scale + digits.log2 ≤ -400 then .zero negative
  else .ofMagnitude negative (digits * 10 ^ scale)

end Number
end SkyRegion
