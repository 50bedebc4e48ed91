import SkyRegion.Number.Floating

/-! Square roots, rounded once. The root of an integer is found bit by bit, with enough bits to tell on which
side of every rounding boundary it lies. -/

namespace SkyRegion

namespace Rounding

/-- Adds to a root every bit below a given count that keeps its square within bounds. -/
def squareRootFrom (n : Nat) : Nat → Nat → Nat
  | 0, root => root
  | bits + 1, root =>
    let candidate := root + 2 ^ bits
    squareRootFrom n bits (if candidate * candidate ≤ n then candidate else root)

/-- The greatest number whose square is not above `n`. -/
def squareRoot (n : Nat) : Nat := squareRootFrom n (n.log2 / 2 + 1) 0

end Rounding

namespace Floating

/-- A root that is not whole at the chosen scale is no boundary either, so any number between the two whole
ones around it rounds the same way. -/
def squareRoot {format : BinaryFormat} : Floating format → Floating format
  | .nan => .nan
  | .infinite negative => if negative then .nan else .infinite false
  | x@(.finite negative significand exponent _) =>
    if significand = 0 then x
    else if negative then .nan
    else
      let shift : Nat := 2 * format.precision + 4 + (exponent % 2).toNat
      let scaled := significand <<< shift
      let root := Rounding.squareRoot scaled
      let between : Rat := if root * root = scaled then root else root + 1 / 2
      ofMagnitude false (between * 2 ^ ((exponent - shift) / 2))

end Floating
end SkyRegion
