import SkyRegion.Number.Power
import SkyRegion.Unit.Basic

/-! Products of powers of metres, seconds, hours and days, each of which may be scaled by a prefix. A product
is measured by writing it in metres and seconds; that fails if a power is beyond every double. -/

namespace SkyRegion

namespace CompoundUnit

/-- Four steps of the doubles on either side of one count as one. -/
def isNearOne (scale : Number) : Bool :=
  scale.isFinite && 1 - 4 / 2 ^ (53 : Nat) ≤ scale.toRat && scale.toRat ≤ 1 + 4 / 2 ^ (52 : Nat)

/-- A compound unit whose scale, if it counts as one, is one. -/
def settled (scale : Number) (dimension : Dimension) : CompoundUnit :=
  ⟨if isNearOne scale then 1 else scale, dimension⟩

def isOne (unit : CompoundUnit) : Bool := unit.scale.same 1 && unit.dimension = {}

/-- So small a scale that nothing is left of it. -/
def hasVanished (unit : CompoundUnit) : Bool := unit.scale.same 0

/-- The named unit that a compound one amounts to, if it does. -/
def toUnit (unit : CompoundUnit) : Unit :=
  if !unit.scale.same 1 then .compound unit
  else if unit.dimension = {} then .one
  else if unit.dimension = { length := 1 } then .metre
  else if unit.dimension = { time := -1 } then .hertz
  else .compound unit

end CompoundUnit

structure SimpleUnit where
  symbol : Text
  scale : Number
  length : Int := 0
  time : Int := 0
  deriving DecidableEq

namespace SimpleUnit

def letters : List (Char × SimpleUnit) :=
  [('m', { symbol := ['m'], scale := 1, length := 1 }), ('s', { symbol := ['s'], scale := 1, time := 1 }),
   ('h', { symbol := ['h'], scale := 3600, time := 1 }), ('d', { symbol := ['d'], scale := 86400, time := 1 })]

def powerOfTen (exponent : Int) : Number := .ofDecimal false 1 exponent

def prefixes : List (Text × Int) :=
  [(['Q'], 30), (['R'], 27), (['Y'], 24), (['Z'], 21), (['E'], 18), (['P'], 15), (['T'], 12), (['G'], 9),
   (['M'], 6), (['k'], 3), (['h'], 2), (['d', 'a'], 1), (['d'], -1), (['c'], -2), (['m'], -3), (['u'], -6),
   (['n'], -9), (['p'], -12), (['f'], -15), (['a'], -18), (['z'], -21), (['y'], -24), (['r'], -27), (['q'], -30)]

/-- Symbols that look prefixed and mean something else. -/
def reserved : List Text := [['a', 's'], ['p', 'h'], ['c', 'd'], ['y', 'd']]

/-- The unit of a symbol: a letter, or a letter with a prefix before it. -/
def ofSymbol? (symbol : Text) : Option SimpleUnit := do
  let unit ← letters.lookup (← symbol.getLast?)
  if symbol.length = 1 then return unit
  guard (!reserved.contains symbol)
  return { unit with symbol, scale := powerOfTen (← prefixes.lookup symbol.dropLast) * unit.scale }

end SimpleUnit

structure UnitPower where
  unit : SimpleUnit
  power : Int
  deriving DecidableEq

namespace UnitPower

/-- Higher powers come first, and equal ones in the order of their symbols. -/
def precedes (first second : UnitPower) : Bool :=
  second.power < first.power || first.power = second.power && first.unit.symbol < second.unit.symbol

end UnitPower

/-- Each unit occurs once, with a power other than zero, and in order. -/
abbrev UnitProduct := List UnitPower

namespace UnitProduct

def single (factor : UnitPower) : UnitProduct := if factor.power = 0 then [] else [factor]

/-- Adds the power of a factor to the one that its unit has already. -/
def gather (product : UnitProduct) (factor : UnitPower) : UnitProduct :=
  if product.any (·.unit = factor.unit) then
    product.map fun earlier =>
      if earlier.unit = factor.unit then { earlier with power := earlier.power + factor.power } else earlier
  else product ++ [factor]

def insert (factor : UnitPower) : UnitProduct → UnitProduct
  | [] => [factor]
  | earlier :: rest =>
    if factor.precedes earlier then factor :: earlier :: rest else earlier :: insert factor rest

def times (first second : UnitProduct) : UnitProduct :=
  ((second.foldl gather first).filter (·.power ≠ 0)).foldr insert []

/-- Writes a scaled product in metres and seconds. -/
def measure? (scale : Number) (product : UnitProduct) : Option CompoundUnit := do
  let scale ← product.foldlM
    (fun scale factor => do return scale * (← factor.unit.scale.power? factor.power)) scale
  let power (measures : SimpleUnit → Int) : Int :=
    product.foldl (fun power factor => power + measures factor.unit * factor.power) 0
  return .settled scale { length := power SimpleUnit.length, time := power SimpleUnit.time }

/-- The measure of a product of which something is left. -/
def measurePresent? (product : UnitProduct) : Option CompoundUnit := do
  let measured ← measure? 1 product
  guard (!measured.hasVanished)
  return measured

/-- The product of factors, taken from the right. A factor and what follows it are measured before they are
multiplied, unless the rest amounts to one: a part that cannot be measured spoils even a product in which it
would cancel. -/
def ofFactors? : List UnitPower → Option UnitProduct
  | [] => none
  | [factor] => some (single factor)
  | factor :: rest => do
    let rest ← ofFactors? rest
    let measured ← measurePresent? rest
    if measured.isOne then return single factor
    let _ ← measurePresent? (single factor)
    return times (single factor) rest

end UnitProduct
end SkyRegion
