import Mathlib.Data.Option.Basic
import SkyRegion.Proofs.Numerals
import SkyRegion.Quantity.Sexagesimal

/-! Angles in three parts. A text is read as such an angle exactly when it is the text of a well-formed one, and
the angle is told from its text. -/

namespace SkyRegion

open Text

namespace SexagesimalForm

/-- A mark that separates parts goes on no number. -/
def IsDivider (mark : Char) : Prop := isDigit mark = false ∧ mark ≠ '.' ∧ mark ≠ 'e' ∧ mark ≠ 'E'

instance (mark : Char) : Decidable (IsDivider mark) :=
  inferInstanceAs (Decidable (isDigit mark = false ∧ mark ≠ '.' ∧ mark ≠ 'e' ∧ mark ≠ 'E'))

theorem isDivider_early (form : SexagesimalForm) : IsDivider form.marks.1 := by
  cases form <;> decide

theorem isDivider_late (form : SexagesimalForm) : IsDivider form.marks.2.1 := by
  cases form <;> decide

theorem isDivider_final (form : SexagesimalForm) : ∀ c ∈ form.marks.2.2.head?, IsDivider c := by
  intro c member
  cases form <;> cases member <;> decide

/-- The first mark tells the forms apart. -/
theorem early_injective : Function.Injective fun form : SexagesimalForm => form.marks.1 := by
  intro first second same
  cases first <;> cases second <;> first | rfl | exact absurd same (by decide)

end SexagesimalForm

open SexagesimalForm

theorem Decimal.ends_of_isDivider {decimal : Decimal} {rest : Text} (divided : ∀ c ∈ rest.head?, IsDivider c) :
    decimal.Ends rest :=
  fun c first => ⟨(divided c first).1, fun _ => (divided c first).2.1⟩

theorem Numeral.ends_of_isDivider {numeral : Numeral} {rest : Text} (divided : ∀ c ∈ rest.head?, IsDivider c) :
    numeral.Ends rest :=
  fun c first => ⟨(divided c first).1, fun _ => ⟨(divided c first).2.2.1, (divided c first).2.2.2, fun _ => (divided c first).2.1⟩⟩

namespace Sexagesimal

structure IsWellFormed (angle : Sexagesimal) : Prop where
  first : angle.first.IsWellFormed
  second : angle.second.IsWellFormed
  third : angle.third.IsWellFormed

variable {angle : Sexagesimal} {decimal : Decimal} {mark : Char} {text rest : Text}

theorem text_eq (angle : Sexagesimal) : angle.text = Sign.text angle.sign ++ (angle.first.text ++
    angle.form.marks.1 :: (angle.second.text ++ angle.form.marks.2.1 :: (angle.third.text ++ angle.form.marks.2.2))) := by
  simp [text]

theorem part?_append (wellFormed : decimal.IsWellFormed) (divides : IsDivider mark) (sought : Char) :
    part? sought (decimal.text ++ mark :: rest) = if mark = sought then some (decimal, rest) else none := by
  have divided : ∀ c ∈ (mark :: rest).head?, IsDivider c := by
    rintro c ⟨⟩
    exact divides
  rw [part?, Decimal.scan?_append wellFormed (Decimal.ends_of_isDivider divided)]

theorem part?_sound (found : part? mark text = some (decimal, rest)) :
    decimal.IsWellFormed ∧ text = decimal.text ++ mark :: rest := by
  rw [part?] at found
  split at found
  · rename_i scanned
    obtain ⟨wellFormed, _, split⟩ := Decimal.scan?_sound scanned
    rw [Option.ite_none_right_eq_some] at found
    obtain ⟨rfl, ⟨⟩⟩ := found
    exact ⟨wellFormed, split⟩
  · cases found

theorem read?_sound {form : SexagesimalForm} (reads : read? form text = some angle) :
    angle.IsWellFormed ∧ angle.form = form ∧ text = angle.text := by
  have signed := Sign.text_append_scan text
  rw [read?] at reads
  simp only [Option.bind_eq_bind, Option.bind_eq_some_iff, Prod.exists, Option.guard_eq_some',
    Option.pure_def, Option.some.injEq] at reads
  obtain ⟨first, _, isFirst, second, _, isSecond, third, _, isThird, _, ended, rfl⟩ := reads
  obtain ⟨firstFormed, split⟩ := part?_sound isFirst
  obtain ⟨secondFormed, rfl⟩ := part?_sound isSecond
  obtain ⟨thirdFormed, _, rfl⟩ := Decimal.scan?_sound isThird
  refine ⟨⟨firstFormed, secondFormed, thirdFormed⟩, rfl, signed.symm.trans ?_⟩
  rw [text_eq, split, ended]

theorem read?_text (wellFormed : angle.IsWellFormed) (form : SexagesimalForm) :
    read? form angle.text = if angle.form = form then some angle else none := by
  have last : Decimal.scan? (angle.third.text ++ angle.form.marks.2.2) = some (angle.third, angle.form.marks.2.2) :=
    Decimal.scan?_append wellFormed.third (Decimal.ends_of_isDivider (isDivider_final _))
  rw [text_eq, read?, Sign.scan_text_append _ (wellFormed.first.unsigned _)]
  simp only [part?_append wellFormed.first (isDivider_early _)]
  by_cases same : angle.form = form
  · subst same
    simp [part?_append wellFormed.second (isDivider_late _), last]
  · have apart : angle.form.marks.1 ≠ form.marks.1 := fun early => same (early_injective early)
    simp [same, apart]

theorem ofText?_sound (reads : ofText? text = some angle) : angle.IsWellFormed ∧ text = angle.text := by
  have found : ∃ form, read? form text = some angle := by
    rw [ofText?] at reads
    cases colons : read? .colons text with
    | some _ => exact ⟨.colons, by simpa [colons] using reads⟩
    | none =>
      cases hours : read? .hours text with
      | some _ => exact ⟨.hours, by simpa [colons, hours] using reads⟩
      | none => exact ⟨.degrees, by simpa [colons, hours] using reads⟩
  obtain ⟨form, reads⟩ := found
  obtain ⟨wellFormed, _, written⟩ := read?_sound reads
  exact ⟨wellFormed, written⟩

theorem ofText?_text (wellFormed : angle.IsWellFormed) : ofText? angle.text = some angle := by
  simp only [ofText?, read?_text wellFormed]
  cases angle.form <;> rfl

/-- As a number the text is its first part, and goes on with the mark after it. -/
theorem scan?_text (wellFormed : angle.IsWellFormed) : Numeral.scan? angle.text = some (⟨angle.sign, angle.first, none⟩,
    angle.form.marks.1 :: (angle.second.text ++ angle.form.marks.2.1 :: (angle.third.text ++ angle.form.marks.2.2))) := by
  have divided : ∀ rest : Text, ∀ c ∈ (angle.form.marks.1 :: rest).head?, IsDivider c := by
    rintro rest c ⟨⟩
    exact isDivider_early _
  have formed : Numeral.IsWellFormed ⟨angle.sign, angle.first, none⟩ := ⟨wellFormed.first, nofun⟩
  rw [text_eq, ← Numeral.scan?_append formed (Numeral.ends_of_isDivider (divided _)), Numeral.text_eq]
  simp

end Sexagesimal

namespace DottedAngle

structure IsWellFormed (angle : DottedAngle) : Prop where
  degrees : ∀ c ∈ angle.degrees, isDigit c = true
  minutes : ∀ c ∈ angle.minutes, isDigit c = true
  seconds : angle.seconds.IsWellFormed
  present : angle.degrees ≠ [] ∧ angle.minutes ≠ [] ∧ angle.seconds.whole ≠ []

variable {angle : DottedAngle} {digits text rest : Text}

theorem text_eq (angle : DottedAngle) : angle.text =
    Sign.text angle.sign ++ (angle.degrees ++ '.' :: (angle.minutes ++ '.' :: angle.seconds.text)) := by
  simp [text]

theorem part?_append (all : ∀ c ∈ digits, isDigit c = true) (present : digits ≠ []) :
    part? (digits ++ '.' :: rest) = some (digits, rest) := by
  have stop : ∀ c ∈ ('.' :: rest).head?, isDigit c = false := by
    rintro c ⟨⟩
    exact Decimal.isDigit_point
  obtain ⟨front, back⟩ := takeWhile_append_of_ends all stop
  simp [part?, front, back, present]

theorem part?_sound (found : part? text = some (digits, rest)) :
    (∀ c ∈ digits, isDigit c = true) ∧ digits ≠ [] ∧ text = digits ++ '.' :: rest := by
  have split := List.takeWhile_append_dropWhile (p := isDigit) (l := text)
  rw [part?] at found
  split at found
  · rename_i after point
    simp only [Option.ite_none_left_eq_some, List.isEmpty_iff] at found
    obtain ⟨present, ⟨⟩⟩ := found
    rw [point] at split
    exact ⟨fun c member => List.mem_takeWhile_imp member, present, split.symm⟩
  · cases found

theorem ofText?_sound (reads : ofText? text = some angle) : angle.IsWellFormed ∧ text = angle.text := by
  have signed := Sign.text_append_scan text
  rw [ofText?] at reads
  simp only [Option.bind_eq_bind, Option.bind_eq_some_iff, Prod.exists, Option.guard_eq_some',
    Bool.and_eq_true, List.isEmpty_iff, Bool.not_eq_true', List.isEmpty_eq_false_iff, Option.pure_def, Option.some.injEq]
    at reads
  obtain ⟨degrees, _, isDegrees, minutes, _, isMinutes, seconds, _, isSeconds, _, ⟨rfl, whole⟩, rfl⟩ := reads
  obtain ⟨degreesDigits, someDegrees, split⟩ := part?_sound isDegrees
  obtain ⟨minutesDigits, someMinutes, rfl⟩ := part?_sound isMinutes
  obtain ⟨secondsFormed, _, rfl⟩ := Decimal.scan?_sound isSeconds
  refine ⟨⟨degreesDigits, minutesDigits, secondsFormed, someDegrees, someMinutes, whole⟩, signed.symm.trans ?_⟩
  rw [text_eq, split, List.append_nil]

theorem ofText?_text (wellFormed : angle.IsWellFormed) : ofText? angle.text = some angle := by
  obtain ⟨someDegrees, someMinutes, whole⟩ := wellFormed.present
  have unsigned := Sign.unsigned_append someDegrees fun c member => .inl (wellFormed.degrees c member)
  have last : Decimal.scan? angle.seconds.text = some (angle.seconds, []) := by
    have scanned := @Decimal.scan?_append angle.seconds [] wellFormed.seconds nofun
    rwa [List.append_nil] at scanned
  rw [text_eq, ofText?, Sign.scan_text_append _ (unsigned _)]
  simp [part?_append wellFormed.degrees someDegrees, part?_append wellFormed.minutes someMinutes, last, whole]

/-- As a number the text is its degrees and minutes, and goes on with a point. -/
theorem scan?_text (wellFormed : angle.IsWellFormed) : Numeral.scan? angle.text =
    some (⟨angle.sign, ⟨angle.degrees, some angle.minutes⟩, none⟩, '.' :: angle.seconds.text) := by
  have decimal : Decimal.IsWellFormed ⟨angle.degrees, some angle.minutes⟩ :=
    ⟨wellFormed.degrees, wellFormed.minutes, by simp [Decimal.digits, wellFormed.present.1]⟩
  have formed : Numeral.IsWellFormed ⟨angle.sign, ⟨angle.degrees, some angle.minutes⟩, none⟩ := ⟨decimal, by simp⟩
  have ends : Numeral.Ends ⟨angle.sign, ⟨angle.degrees, some angle.minutes⟩, none⟩ ('.' :: angle.seconds.text) := by
    rintro c ⟨⟩
    exact ⟨Decimal.isDigit_point, fun _ => ⟨by decide, by decide, by simp⟩⟩
  rw [text_eq, ← Numeral.scan?_append formed ends, Numeral.text_eq]
  simp [Decimal.text]

end DottedAngle
end SkyRegion
