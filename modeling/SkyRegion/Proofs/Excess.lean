import SkyRegion.Proofs.Faults
import SkyRegion.Proofs.NumeralToken
import SkyRegion.Proofs.Rounding
import SkyRegion.Shape.Reading

/-! Tokens that stop a reading altogether. A token is excessive when the library of units is stopped by its angle or by
the text of its unit, or when a whole part of a dotted angle is too long to be read or beyond every double. -/

namespace SkyRegion

open Text

/-- Digits whose value no double is near enough to. -/
def Text.IsBeyondDoubles (digits : Text) : Prop := 2 ^ 1024 - 2 ^ 970 ≤ digits.digitsValue

theorem Text.isBeyondDoubles_iff (digits : Text) :
    digits.IsBeyondDoubles ↔ (Floating.ofInt? digits.digitsValue : Option Number) = none :=
  (Floating.ofInt?_eq_none_iff _).symm

theorem Text.ofInt?_digitsValue {digits : Text} (moderate : ¬digits.IsBeyondDoubles) :
    (Floating.ofInt? digits.digitsValue : Option Number) = some (.ofInt digits.digitsValue) := by
  rw [isBeyondDoubles_iff, Floating.ofInt?] at moderate
  rw [Floating.ofInt?]
  split at moderate
  · exact if_pos ‹_›
  · exact absurd rfl moderate

namespace DottedAngle

/-- A whole part is too long, or beyond every double. -/
def IsExcessive (angle : DottedAngle) : Prop :=
  digitLimit < angle.degrees.length ∨ digitLimit < angle.minutes.length ∨
    angle.minutes.IsBeyondDoubles ∨ angle.degrees.IsBeyondDoubles

theorem toDegrees_fails_iff (angle : DottedAngle) : Fails angle.toDegrees ↔ angle.IsExcessive := by
  rw [IsExcessive, isBeyondDoubles_iff, isBeyondDoubles_iff, toDegrees]
  simp only [failsWith_bind]
  by_cases degrees : digitLimit < angle.degrees.length
  · simp [degrees]
  by_cases minutes : digitLimit < angle.minutes.length
  · simp [degrees, minutes]
  simp only [degrees, minutes, if_false, failsWith_ok, false_or, Except.ok.injEq, exists_eq_left', failsWith_elim,
    failsWith_pure, and_false, exists_false, or_false]
  cases (Floating.ofInt? angle.minutes.digitsValue : Option Number) <;> simp

end DottedAngle

namespace Quantity

variable [UnitLibrary]

/-- A text whose reading is stopped by the angle that it is, or by the unit after its number. -/
inductive Excessive (text : Text) : Prop where
  | sexagesimal {angle : Sexagesimal} (reads : Sexagesimal.ofText? text = some angle)
      (stopped : Fails (UnitLibrary.degrees angle))
  | dotted {angle : DottedAngle} (other : Sexagesimal.ofText? text = none) (reads : DottedAngle.ofText? text = some angle)
      (excessive : angle.IsExcessive)
  | unit {numeral : Numeral} {rest : Text} (other : Sexagesimal.ofText? text = none)
      (other' : DottedAngle.ofText? text = none) (reads : Numeral.scan? text = some (numeral, rest))
      (single : rest.contains '\n' = false) (present : rest.trim ≠ []) (unnamed : Unit.aliases.lookup rest.trim = none)
      (stopped : Fails (UnitLibrary.unit rest.trim))

theorem readNumberAndUnit_fails_iff (text : Text) : Fails (readNumberAndUnit text) ↔
    ∃ numeral rest, Numeral.scan? text = some (numeral, rest) ∧ rest.contains '\n' = false ∧ rest.trim ≠ [] ∧
      Unit.aliases.lookup rest.trim = none ∧ Fails (UnitLibrary.unit rest.trim) := by
  rw [readNumberAndUnit]
  rcases Numeral.scan? text with _ | ⟨numeral, rest⟩
  · simp
  simp only [Option.some.injEq, Prod.mk.injEq, ↓existsAndEq, true_and]
  cases rest.contains '\n' with
  | true => simp
  | false =>
    by_cases bare : rest.trim = []
    · simp [bare]
    · have present : rest.trim.isEmpty = false := by simpa using bare
      simp only [present, Bool.false_eq_true, if_false, failsWith_bind, failsWith_pure, and_false, exists_false, or_false,
        true_and, ne_eq, bare, not_false_eq_true]
      rw [Unit.read]
      cases Unit.aliases.lookup rest.trim <;> simp

theorem read_fails_iff (text : Text) : Fails (read text) ↔ Excessive text.trim := by
  rw [read]
  cases sexagesimal : Sexagesimal.ofText? text.trim with
  | some angle =>
    simp only [failsWith_bind, failsWith_pure, and_false, exists_false, or_false]
    refine ⟨.sexagesimal sexagesimal, ?_⟩
    rintro (⟨reads, stopped⟩ | ⟨other, _, _⟩ | ⟨other, _, _, _, _, _, _⟩)
    · cases sexagesimal.symm.trans reads
      exact stopped
    · cases sexagesimal.symm.trans other
    · cases sexagesimal.symm.trans other
  | none =>
    cases dotted : DottedAngle.ofText? text.trim with
    | some angle =>
      simp only [failsWith_bind, failsWith_pure, and_false, exists_false, or_false, DottedAngle.toDegrees_fails_iff]
      refine ⟨.dotted sexagesimal dotted, ?_⟩
      rintro (⟨reads, _⟩ | ⟨_, reads, excessive⟩ | ⟨_, other, _, _, _, _, _⟩)
      · cases sexagesimal.symm.trans reads
      · cases dotted.symm.trans reads
        exact excessive
      · cases dotted.symm.trans other
    | none =>
      simp only [readNumberAndUnit_fails_iff]
      constructor
      · rintro ⟨numeral, rest, reads, single, present, unnamed, stopped⟩
        exact .unit sexagesimal dotted reads single present unnamed stopped
      · rintro (⟨reads, _⟩ | ⟨_, reads, _⟩ | ⟨_, _, reads, single, present, unnamed, stopped⟩)
        · cases sexagesimal.symm.trans reads
        · cases dotted.symm.trans reads
        · exact ⟨_, _, reads, single, present, unnamed, stopped⟩

end Quantity

namespace Token

/-- The text that is read for a token, if its unit is spelled in a known way. -/
def spelled? (latitude : Bool) (token : Text) : Option Text := (checked [] latitude token).toOption

/-- Only a complaint about a token names the shape. -/
theorem checked_toOption (shape : Text) (latitude : Bool) (token : Text) :
    (checked shape latitude token).toOption = spelled? latitude token := by
  rw [spelled?, checked, checked, nameUnit, nameUnit]
  rcases afterNumeral? token with _ | _ | ⟨letter, _ | ⟨next, rest⟩⟩
  · rfl
  · rfl
  · simp only
    cases unitLetters.lookup letter <;> rfl
  · simp only
    generalize (beginsLike .colons token || beginsLike .hours token || beginsLike .degrees token) = angle
    cases angle <;> rfl

variable [UnitLibrary]

def IsRead (latitude : Bool) (token : Text) : Prop :=
  ∃ text quantity, spelled? latitude token = some text ∧ Quantity.read text = .ok (some quantity)

def IsExcessive (latitude : Bool) (token : Text) : Prop :=
  ∃ text, spelled? latitude token = some text ∧ Quantity.Excessive text.trim

end Token

namespace Setback

def IsInterruption : Setback → Prop
  | .complaint _ => False
  | .interruption _ => True

@[simp] theorem isInterruption_complaint (complaint : Complaint) : (Setback.complaint complaint).IsInterruption ↔ False :=
  Iff.rfl

@[simp] theorem isInterruption_interruption (interruption : Interruption) :
    (Setback.interruption interruption).IsInterruption ↔ True := Iff.rfl

instance : DecidablePred IsInterruption
  | .complaint _ => inferInstanceAs (Decidable False)
  | .interruption _ => inferInstanceAs (Decidable True)

end Setback

abbrev Interrupts (result : Except Setback α) : Prop := FailsWith Setback.IsInterruption result

@[simp] theorem interrupts_complaint (result : Except Complaint α) :
    Interrupts (result.mapError .complaint) ↔ False := by
  cases result <;> rfl

namespace Token

variable [UnitLibrary] (shape : Text) (place : Unit) (latitude : Bool) (token : Text)

theorem quantity_interrupts_iff : Interrupts (quantity shape place latitude token) ↔ IsExcessive latitude token := by
  rw [IsExcessive, ← checked_toOption shape, quantity_eq]
  cases checked shape latitude token with
  | error complaint => simp [Except.toOption]
  | ok text =>
    simp only [Except.toOption, Option.some.injEq, exists_eq_left', ← Quantity.read_fails_iff]
    rcases Quantity.read text with fault | _ | quantity <;> simp

theorem quantity_ok_iff :
    (∃ quantity, Token.quantity shape place latitude token = .ok quantity) ↔ IsRead latitude token := by
  rw [IsRead, ← checked_toOption shape, quantity_eq]
  cases checked shape latitude token with
  | error complaint => simp [Except.toOption]
  | ok text =>
    simp only [Except.toOption, Option.some.injEq, exists_and_left, exists_eq_left']
    rcases Quantity.read text with fault | _ | quantity <;> simp

instance : Decidable (IsExcessive latitude token) := decidable_of_iff _ (quantity_interrupts_iff [] .one latitude token)

end Token

section

variable [UnitLibrary]

/-- The tokens are read from left to right, and an excessive one is come upon. -/
inductive ReachesExcess : List (Text × Bool) → Prop
  | here {token : Text} {latitude : Bool} {rest : List (Text × Bool)} (excessive : Token.IsExcessive latitude token) :
      ReachesExcess ((token, latitude) :: rest)
  | later {token : Text} {latitude : Bool} {rest : List (Text × Bool)} (read : Token.IsRead latitude token)
      (reaches : ReachesExcess rest) : ReachesExcess ((token, latitude) :: rest)

theorem reachesExcess_cons (token : Text) (latitude : Bool) (rest : List (Text × Bool)) :
    ReachesExcess ((token, latitude) :: rest) ↔
      Token.IsExcessive latitude token ∨ Token.IsRead latitude token ∧ ReachesExcess rest := by
  constructor
  · rintro (excessive | ⟨read, reaches⟩)
    · exact .inl excessive
    · exact .inr ⟨read, reaches⟩
  · rintro (excessive | ⟨read, reaches⟩)
    · exact .here excessive
    · exact .later read reaches

theorem not_reachesExcess_nil : ¬ReachesExcess [] := nofun

end

namespace Shape

def marked (latitude : Nat → Bool) (tokens : List Text) : List (Text × Bool) :=
  tokens.zipIdx.map fun (token, index) => (token, latitude index)

/-- The tokens that are read for a shape, once their count has been found right. -/
def readings (keyword : ShapeKeyword) (word : Text) (arguments : List Text) : List (Text × Bool) :=
  match keyword with
  | .point => marked (· = 1) ((pointTokens? word arguments).getD [])
  | .circle =>
    match arguments with
    | x :: y :: radius :: _ => marked (· = 1) [x, y, radius, radius]
    | _ => []
  | .ellipse => marked (· = 1) (if arguments.length = 4 ∨ arguments.length = 5 then arguments else [])
  | .box => marked (· = 1) (if arguments.length = 4 ∨ arguments.length = 5 then arguments else [])
  | .polygon => marked (· % 2 = 1) (if arguments.length % 2 = 0 ∧ 3 ≤ arguments.length / 2 then arguments else [])
  | _ => []

theorem checkCentered_ok_iff (shape : Text) (count : Nat) : checkCentered shape count = .ok ⟨⟩ ↔ count = 4 ∨ count = 5 := by
  simp only [checkCentered, Bool.or_eq_true, decide_eq_true_iff]
  split
  · simp [*]
  · split <;> simp [*]

section

variable [UnitLibrary]

theorem quantities_interrupts_iff (shape : Text) (place : Nat → Unit) (latitude : Nat → Bool) (tokens : List Text) :
    Interrupts (quantities shape place latitude tokens) ↔ ReachesExcess (marked latitude tokens) := by
  rw [quantities, marked]
  generalize 0 = start
  induction tokens generalizing start with
  | nil => simp [not_reachesExcess_nil]
  | cons token rest ih =>
    simp only [List.zipIdx_cons, List.mapM_cons, List.map_cons, reachesExcess_cons, ← ih,
      ← Token.quantity_ok_iff shape (place start), ← Token.quantity_interrupts_iff shape (place start), failsWith_bind]
    simp

variable (mode : PositionMode) (word : Text) (arguments : List Text)

theorem readPoint_interrupts_iff : Interrupts (readPoint mode word arguments) ↔
    ReachesExcess (marked (· = 1) ((pointTokens? word arguments).getD [])) := by
  rw [readPoint]
  cases pointTokens? word arguments with
  | none => simp [marked, not_reachesExcess_nil]
  | some tokens =>
    simp only [failsWith_bind, quantities_interrupts_iff, Option.getD_some, or_iff_left_iff_imp]
    rintro ⟨quantities, _, interrupts⟩
    match quantities with
    | [] => exact interrupts.elim
    | [_] => exact interrupts.elim
    | _ :: _ :: _ => exact interrupts.elim

theorem readCentered_interrupts_iff (shape : Text) : Interrupts (readCentered mode shape arguments) ↔
    ReachesExcess (marked (· = 1) (if arguments.length = 4 ∨ arguments.length = 5 then arguments else [])) := by
  simp only [readCentered, failsWith_bind, interrupts_complaint, false_or, ← checkCentered_ok_iff shape]
  cases checkCentered shape arguments.length with
  | error complaint => simp [Except.mapError, marked, not_reachesExcess_nil]
  | ok accepted =>
    simp only [Except.mapError, if_true, quantities_interrupts_iff, true_and, exists_const, or_iff_left_iff_imp]
    rintro ⟨quantities, _, _, _, interrupts⟩
    match quantities with
    | [] => exact interrupts.elim
    | [_] => exact interrupts.elim
    | [_, _] => exact interrupts.elim
    | [_, _, _] => exact interrupts.elim
    | _ :: _ :: _ :: _ :: _ => exact interrupts.elim

theorem readEllipse_interrupts_iff : Interrupts (readEllipse mode arguments) ↔
    ReachesExcess (marked (· = 1) (if arguments.length = 4 ∨ arguments.length = 5 then arguments else [])) := by
  simp [readEllipse, readCentered_interrupts_iff]

theorem readBox_interrupts_iff : Interrupts (readBox mode arguments) ↔
    ReachesExcess (marked (· = 1) (if arguments.length = 4 ∨ arguments.length = 5 then arguments else [])) := by
  simp [readBox, readCentered_interrupts_iff]

theorem readPolygon_interrupts_iff : Interrupts (readPolygon mode arguments) ↔
    ReachesExcess (marked (· % 2 = 1)
      (if arguments.length % 2 = 0 ∧ 3 ≤ arguments.length / 2 then arguments else [])) := by
  rw [readPolygon]
  by_cases odd : arguments.length % 2 ≠ 0
  · simp [odd, failsWith_bind, marked, not_reachesExcess_nil]
  by_cases few : arguments.length / 2 < 3
  · have refused : ¬(arguments.length % 2 = 0 ∧ 3 ≤ arguments.length / 2) := by omega
    simp [odd, few, refused, failsWith_bind, marked, not_reachesExcess_nil]
  rw [if_neg odd, if_neg few, if_pos ⟨not_not.mp odd, not_lt.mp few⟩]
  simp [quantities_interrupts_iff]

/-- An interruption can only come from an excessive token. -/
theorem read_interrupts_iff (keyword : ShapeKeyword) :
    Interrupts (read mode keyword word arguments) ↔ ReachesExcess (readings keyword word arguments) := by
  cases keyword with
  | point => exact readPoint_interrupts_iff mode word arguments
  | ellipse => exact readEllipse_interrupts_iff mode arguments
  | box => exact readBox_interrupts_iff mode arguments
  | polygon => exact readPolygon_interrupts_iff mode arguments
  | circle =>
    match arguments with
    | [] => simp [read, readCircle, readings, not_reachesExcess_nil]
    | [_] => simp [read, readCircle, readings, not_reachesExcess_nil]
    | [_, _] => simp [read, readCircle, readings, not_reachesExcess_nil]
    | x :: y :: radius :: _ => exact readEllipse_interrupts_iff mode [x, y, radius, radius]
  | _ => simp [read, readings, not_reachesExcess_nil]

end

end Shape
end SkyRegion
