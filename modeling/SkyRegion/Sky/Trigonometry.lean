import SkyRegion.Number.Machine
import SkyRegion.Number.Remainder

/-! Trigonometry of angles in degrees. Multiples of a quarter turn are exact, so that poles and meridians stay
where they are. -/

namespace SkyRegion.Sky

def radians (degrees : Float) : Float := degrees * 0.017453292519943295

def degrees (radians : Float) : Float := radians * 57.29577951308232

namespace Degrees

/-- What is left after whole multiples of a period, with the sign of the angle. -/
def remainder (angle period : Float) : Float :=
  let rest : Number := (Number.ofFloat angle).remainder (Number.ofFloat period)
  rest.toFloat

/-- The count of quarter turns, without its sign, if the angle is made of nothing else. -/
def quarterTurns? (angle : Float) : Option Nat :=
  if remainder angle 90 == 0 then some ((Number.ofFloat (angle / 90 + 0.5)).toRat.floor.natAbs % 4) else none

def sin (angle : Float) : Float :=
  match quarterTurns? angle with
  | some 0 => 0
  | some 1 => if angle > 0 then 1 else -1
  | some 2 => 0
  | some _ => if angle > 0 then -1 else 1
  | none => (radians angle).sin

def cos (angle : Float) : Float :=
  match quarterTurns? angle with
  | some 0 => 1
  | some 2 => -1
  | some _ => 0
  | none => (radians angle).cos

def atan2 (y x : Float) : Float :=
  if y == 0 && x ≥ 0 then 0
  else if y == 0 && x < 0 then 180
  else if x == 0 && y > 0 then 90
  else if x == 0 && y < 0 then -90
  else degrees (Float.atan2 y x)

/-- How far rounding may take a sine or cosine beyond one. -/
def excess : Float := 1e-10

def asin (value : Float) : Float :=
  if value ≥ 1 && value - 1 < excess then 90
  else if value ≤ -1 && value + 1 > -excess then -90
  else degrees value.asin

def acos (value : Float) : Float :=
  if value ≥ 1 && value - 1 < excess then 0
  else if value ≤ -1 && value + 1 > -excess then 180
  else if value == 0 then 90
  else degrees value.acos

/-- An angle that is less than a turn out of its range, brought between minus and plus half a turn. -/
def half (angle : Float) : Float :=
  if angle > 180 then angle - 360 else if angle < -180 then angle + 360 else angle

end Degrees

/-- An angle brought up or down by whole turns until it is between zero and one turn. -/
def wrap (turn angle : Number) : Number :=
  let turns := angle.floorQuotient turn
  if turns.isFinite && !turns.same 0 then
    let rest := angle - turns * turn
    let rest := if rest.below turn then rest else rest - turn
    if rest.below 0 then rest + turn else rest
  else angle

end SkyRegion.Sky
