import SkyRegion.Number.Floating

/-! Doubles as machine words. Only the trigonometry of the sky is computed on the machine, and its arguments
and results pass through here. -/

namespace SkyRegion.Number

/-- Zero and subnormal numbers have a significand below the hidden bit. -/
def toWord : Number → UInt64
  | .nan => 0x7FF8000000000000
  | .infinite negative => if negative then 0xFFF0000000000000 else 0x7FF0000000000000
  | .finite negative significand exponent _ =>
    let sign := if negative then 1 <<< 63 else 0
    let magnitude :=
      if significand < 1 <<< 52 then significand
      else ((exponent + 1075).toNat <<< 52) + (significand - (1 <<< 52))
    UInt64.ofNat (sign + magnitude)

def ofWord (word : UInt64) : Number :=
  let negative : Bool := 1 <<< 63 ≤ word.toNat
  let exponent : Nat := (word.toNat >>> 52) % (1 <<< 11)
  let fraction : Nat := word.toNat % (1 <<< 52)
  if exponent = 2047 then if fraction = 0 then .infinite negative else .nan
  else if exponent = 0 then .ofParts negative fraction (-1074)
  else .ofParts negative ((1 <<< 52) + fraction) (exponent - 1075)

def toFloat (x : Number) : Float := Float.ofBits x.toWord

def ofFloat (x : Float) : Number := ofWord x.toBits

end SkyRegion.Number
