import SkyRegion.Proofs.Excess
import SkyRegion.Proofs.TextParts
import SkyRegion.Proofs.TokenGrammar

/-! Declinations in their two notations, with letters and with colons. Letters are read as an angle whose parts are
checked; colons become points, and the text is divided at its points again. -/

namespace SkyRegion

open Text
open SexagesimalForm (IsDivider isDivider_early isDivider_late isDivider_final)

theorem Text.point_notMem {digits : Text} (all : ∀ c ∈ digits, isDigit c = true) : '.' ∉ digits :=
  fun member => absurd (all _ member) (by decide)

namespace Decimal

variable {decimal : Decimal}

/-- The digits on either side of the point. -/
def runs (decimal : Decimal) : List Text := decimal.whole :: decimal.fraction.toList

theorem IsWellFormed.point_notMem (wellFormed : decimal.IsWellFormed) :
    '.' ∉ decimal.whole ∧ ∀ places ∈ decimal.fraction, '.' ∉ places := by
  have fraction := wellFormed.fraction
  refine ⟨Text.point_notMem wellFormed.whole, fun places written => Text.point_notMem ?_⟩
  rwa [written] at fraction

theorem IsWellFormed.pieces_text (wellFormed : decimal.IsWellFormed) : pieces ['.'] decimal.text = decimal.runs := by
  obtain ⟨whole, fraction⟩ := wellFormed.point_notMem
  rw [Decimal.text, runs]
  cases written : decimal.fraction with
  | none => simpa using pieces_of_notMem whole
  | some places => rw [pieces_append_mark whole, pieces_of_notMem (fraction places written), Option.toList_some]

theorem IsWellFormed.pieces_text_append (wellFormed : decimal.IsWellFormed) (rest : Text) :
    pieces ['.'] (decimal.text ++ '.' :: rest) = decimal.runs ++ pieces ['.'] rest := by
  obtain ⟨whole, fraction⟩ := wellFormed.point_notMem
  rw [Decimal.text, runs]
  cases written : decimal.fraction with
  | none => simpa using pieces_append_mark whole rest
  | some places => simp [pieces_append_mark whole, pieces_append_mark (fraction places written)]

/-- A literal begins with a digit. -/
structure IsLiteral (decimal : Decimal) : Prop where
  wellFormed : decimal.IsWellFormed
  headed : decimal.whole ≠ []

end Decimal

namespace DottedAngle

variable {angle : DottedAngle}

/-- A dotted angle is told by what stands between its points. -/
theorem runs_of_ofText? {sign : Option Sign} {text : Text} (unsigned : ∀ c ∈ text.head?, c ≠ '+' ∧ c ≠ '-')
    (reads : ofText? (Sign.text sign ++ text) = some angle) :
    angle.IsWellFormed ∧ pieces ['.'] text = angle.degrees :: angle.minutes :: angle.seconds.runs := by
  obtain ⟨wellFormed, written⟩ := ofText?_sound reads
  have digits := Sign.unsigned_append wellFormed.present.1 fun c member => .inl (wellFormed.degrees c member)
  have scanned := Sign.scan_text_append sign unsigned
  rw [written, text_eq, Sign.scan_text_append _ (digits _), Prod.mk.injEq] at scanned
  refine ⟨wellFormed, ?_⟩
  rw [← scanned.2, pieces_append_mark (point_notMem wellFormed.degrees),
    pieces_append_mark (point_notMem wellFormed.minutes), wellFormed.seconds.pieces_text]

/-- The parts added up as they stand. -/
def inDegrees (angle : DottedAngle) : Number :=
  let minutes : Number := .ofInt angle.minutes.digitsValue
  let sum := .ofInt angle.degrees.digitsValue + minutes / 60 + angle.seconds.toNumber / 3600
  if Sign.isMinus angle.sign then -sum else sum

theorem toDegrees_eq (moderate : ¬Fails angle.toDegrees) : angle.toDegrees = .ok angle.inDegrees := by
  rw [toDegrees_fails_iff, IsExcessive, not_or, not_or, not_or] at moderate
  obtain ⟨degreesShort, minutesShort, minutes, degrees⟩ := moderate
  simp only [toDegrees, if_neg degreesShort, if_neg minutesShort, bind, Except.bind, ofInt?_digitsValue degrees,
    ofInt?_digitsValue minutes, Option.elim_some]
  rfl

end DottedAngle

namespace Sexagesimal

/-- Letters are an angle if the first two parts are whole and no part is beyond the bounds of an angle. -/
theorem degrees_eq [UnitLibrary] [LawfulUnitLibrary] {angle : Sexagesimal} (letters : angle.form = .degrees)
    (moderate : ¬Fails (UnitLibrary.degrees angle)) :
    UnitLibrary.degrees angle = .ok (if angle.isProper then some angle.sum else none) := by
  cases answered : UnitLibrary.degrees angle with
  | error fault => exact absurd (answered ▸ trivial) moderate
  | ok degrees? => rw [LawfulUnitLibrary.degrees_letters letters answered]

/-- The same angle where its parts may be any numbers. -/
def loose (angle : Sexagesimal) : LooseAngle :=
  ⟨angle.form, ⟨angle.sign, angle.first, none⟩, ⟨none, angle.second, none⟩, ⟨none, angle.third, none⟩⟩

variable {angle : Sexagesimal} (wellFormed : angle.IsWellFormed)

theorem loose_text (angle : Sexagesimal) : angle.loose.text = angle.text := by
  simp [loose, LooseAngle.text, Numeral.text, text_eq, Sign.text]

include wellFormed

theorem loose_isWellFormed : angle.loose.IsWellFormed :=
  ⟨⟨wellFormed.first, nofun⟩, ⟨wellFormed.second, nofun⟩, ⟨wellFormed.third, nofun⟩⟩

theorem solid : ∀ c ∈ angle.text, isBlank c = false := by
  have decimal {part : Decimal} (formed : part.IsWellFormed) {c : Char} (member : c ∈ part.text) : isBlank c = false :=
    Numeral.isBlank_of_isMark (Numeral.isMark_of_digit_or_point (formed.mem_text member))
  have marks : ∀ c ∈ angle.form.marks.1 :: angle.form.marks.2.1 :: angle.form.marks.2.2, isBlank c = false := by
    cases angle.form <;> exact forall_mem_of_all (by decide)
  simp only [List.mem_cons, forall_eq_or_imp] at marks
  intro c member
  simp only [text_eq, List.mem_append, List.mem_cons] at member
  rcases member with member | member | rfl | member | rfl | member | member
  · exact Numeral.isBlank_of_isMark (Numeral.isMark_of_mem_sign member)
  · exact decimal wellFormed.first member
  · exact marks.1
  · exact decimal wellFormed.second member
  · exact marks.2.1
  · exact decimal wellFormed.third member
  · exact marks.2.2 c member

end Sexagesimal

/-- Degrees, minutes and seconds, without a notation. -/
structure Declination where
  sign : Option Sign
  degrees : Decimal
  minutes : Decimal
  seconds : Decimal

namespace Declination

structure IsWellFormed (declination : Declination) : Prop where
  degrees : declination.degrees.IsLiteral
  minutes : declination.minutes.IsLiteral
  seconds : declination.seconds.IsLiteral

def written (declination : Declination) (form : SexagesimalForm) : Sexagesimal :=
  ⟨form, declination.sign, declination.degrees, declination.minutes, declination.seconds⟩

variable {declination : Declination}

theorem IsWellFormed.written (wellFormed : declination.IsWellFormed) (form : SexagesimalForm) :
    (declination.written form).IsWellFormed :=
  ⟨wellFormed.degrees.wellFormed, wellFormed.minutes.wellFormed, wellFormed.seconds.wellFormed⟩

/-- The parts as a dotted angle, where degrees and minutes have no point. -/
def plain (declination : Declination) : DottedAngle :=
  ⟨declination.sign, declination.degrees.whole, declination.minutes.whole, declination.seconds⟩

/-- The dotted angle that the colons make once they are points. A part with digits after its point counts as two, and
one such part pushes the others on. -/
def dotted? (declination : Declination) : Option DottedAngle :=
  let ⟨sign, degrees, minutes, seconds⟩ := declination
  match degrees.fraction, minutes.fraction, seconds.fraction with
  | none, none, _ => some declination.plain
  | some (c :: places), none, none => some ⟨sign, degrees.whole, c :: places, ⟨minutes.whole, some seconds.whole⟩⟩
  | none, some (c :: places), none => some ⟨sign, degrees.whole, minutes.whole, ⟨c :: places, some seconds.whole⟩⟩
  | _, _, _ => none

/-- The text of the colons once they are points. -/
def pointed (declination : Declination) : Text :=
  Token.pointed declination.sign declination.degrees declination.minutes declination.seconds

theorem text_of_dotted? {angle : DottedAngle} (wellFormed : declination.IsWellFormed)
    (becomes : declination.dotted? = some angle) : angle.IsWellFormed ∧ declination.pointed = angle.text := by
  obtain ⟨⟨degrees, someDegrees⟩, ⟨minutes, someMinutes⟩, ⟨seconds, someSeconds⟩⟩ := wellFormed
  rw [dotted?] at becomes
  split at becomes
  · rename_i wholeDegrees wholeMinutes
    cases becomes
    exact ⟨⟨degrees.whole, minutes.whole, seconds, someDegrees, someMinutes, someSeconds⟩,
      by simp [pointed, Token.pointed, plain, DottedAngle.text_eq, Decimal.text, wholeDegrees, wholeMinutes]⟩
  · rename_i c places further wholeMinutes wholeSeconds
    cases becomes
    have digits : ∀ d ∈ c :: places, isDigit d = true := by simpa [further] using degrees.fraction
    have last : Decimal.IsWellFormed ⟨declination.minutes.whole, some declination.seconds.whole⟩ :=
      ⟨minutes.whole, seconds.whole, by simp [Decimal.digits, someMinutes]⟩
    exact ⟨⟨degrees.whole, digits, last, someDegrees, List.cons_ne_nil c places, someMinutes⟩,
      by simp [pointed, Token.pointed, DottedAngle.text_eq, Decimal.text, further, wholeMinutes, wholeSeconds]⟩
  · rename_i c places wholeDegrees further wholeSeconds
    cases becomes
    have digits : ∀ d ∈ c :: places, isDigit d = true := by simpa [further] using minutes.fraction
    have last : Decimal.IsWellFormed ⟨c :: places, some declination.seconds.whole⟩ :=
      ⟨digits, seconds.whole, by simp [Decimal.digits]⟩
    exact ⟨⟨degrees.whole, minutes.whole, last, someDegrees, someMinutes, List.cons_ne_nil c places⟩,
      by simp [pointed, Token.pointed, DottedAngle.text_eq, Decimal.text, wholeDegrees, further, wholeSeconds]⟩
  · cases becomes

theorem ofText?_pointed (wellFormed : declination.IsWellFormed) :
    DottedAngle.ofText? declination.pointed = declination.dotted? := by
  cases becomes : declination.dotted? with
  | some angle =>
    obtain ⟨formed, same⟩ := text_of_dotted? wellFormed becomes
    rw [same, DottedAngle.ofText?_text formed]
  | none =>
    by_contra present
    obtain ⟨angle, reads⟩ := Option.ne_none_iff_exists'.mp present
    obtain ⟨formed, runs⟩ := DottedAngle.runs_of_ofText? (wellFormed.degrees.wellFormed.unsigned _) reads
    rw [wellFormed.degrees.wellFormed.pieces_text_append, wellFormed.minutes.wellFormed.pieces_text_append,
      wellFormed.seconds.wellFormed.pieces_text] at runs
    obtain ⟨sign, ⟨degrees, first⟩, ⟨minutes, second⟩, ⟨seconds, third⟩⟩ := declination
    obtain ⟨_, someMinutes, someSeconds⟩ := formed.present
    have short := congrArg List.length runs
    have last := angle.seconds.fraction.length_toList_le
    simp only [Decimal.runs, List.length_append, List.length_cons] at runs short
    match first, second, third with
    | none, none, _ => cases becomes
    | some (_ :: _), none, none => cases becomes
    | none, some (_ :: _), none => cases becomes
    | some [], none, none =>
      simp only [Option.toList_some, List.cons_append, List.cons.injEq] at runs
      exact someMinutes runs.2.1.symm
    | none, some [], none =>
      simp only [Option.toList_some, Option.toList_none, List.cons_append, List.nil_append, List.cons.injEq] at runs
      exact someSeconds runs.2.2.1.symm
    -- Two further points leave more parts than an angle has.
    | some _, some _, _ | some _, none, some _ | none, some _, some _ =>
      simp only [Option.toList_some, List.length_cons] at short
      omega

/-- The degrees that are read once the colons are points. -/
def pointedDegrees (declination : Declination) : Except ReadingFault (Option Number) :=
  declination.dotted?.elim (.ok none) fun angle => some <$> angle.toDegrees

theorem read_pointed [UnitLibrary] [LawfulUnitLibrary] (wellFormed : declination.IsWellFormed) :
    Quantity.read declination.pointed = declination.pointedDegrees.map fun degrees => degrees.map (⟨·, .degree⟩) := by
  have dotted := ofText?_pointed wellFormed
  obtain ⟨⟨degrees, _⟩, ⟨minutes, _⟩, ⟨seconds, _⟩⟩ := wellFormed
  rw [pointed, Token.read_pointed degrees minutes seconds, ← pointed, pointedDegrees, dotted]
  cases becomes : declination.dotted? with
  | some angle =>
    dsimp only [Option.elim_some]
    cases angle.toDegrees <;> rfl
  | none => exact Token.readNumberAndUnit_pointed degrees minutes seconds (dotted.trans becomes)

end Declination

namespace Token

theorem afterPart?_append {numeral : Numeral} {mark : Char} (wellFormed : numeral.IsWellFormed)
    (divides : IsDivider mark) (rest : Text) : afterPart? mark (numeral.text ++ mark :: rest) = some rest := by
  have ends : numeral.Ends (mark :: rest) := Numeral.ends_of_isDivider (by rintro c ⟨⟩; exact divides)
  rw [afterPart?, afterNumeral?_append wellFormed ends]
  exact if_pos rfl

theorem beginsLike_text {angle : LooseAngle} (wellFormed : angle.IsWellFormed) :
    beginsLike angle.form angle.text = true := by
  have last := afterNumeral?_append wellFormed.third (Numeral.ends_of_isDivider (isDivider_final angle.form))
  simp [beginsLike, LooseAngle.text, afterPart?_append wellFormed.first (isDivider_early _),
    afterPart?_append wellFormed.second (isDivider_late _), last]

theorem nameUnit_text {angle : LooseAngle} (wellFormed : angle.IsWellFormed) (shape : Text) :
    nameUnit shape angle.text = .ok angle.text := by
  have begins := beginsLike_text wellFormed
  have found :
      (beginsLike .colons angle.text || beginsLike .hours angle.text || beginsLike .degrees angle.text) = true := by
    cases form : angle.form <;> simp [form ▸ begins]
  have early : afterNumeral? angle.text = some (angle.form.marks.1 :: (angle.second.text ++ angle.form.marks.2.1 ::
      (angle.third.text ++ angle.form.marks.2.2))) :=
    afterNumeral?_append wellFormed.first (Numeral.ends_of_isDivider (by rintro c ⟨⟩; exact isDivider_early _))
  obtain ⟨c, further, second⟩ := List.exists_cons_of_ne_nil wellFormed.second.text_ne_nil
  rw [nameUnit, early, second]
  exact if_pos found

/-- What a token gives for the degrees in its text. -/
def outcome (shape text : Text) : Except ReadingFault (Option Number) → Except Setback Quantity
  | .error fault => .error (.interruption (.reading fault))
  | .ok none => .error (.complaint (.notQuantity shape text))
  | .ok (some degrees) => .ok ⟨degrees, .degree⟩

variable {shape token text : Text} {place : Unit} {latitude : Bool} {result : Except ReadingFault (Option Number)}

theorem interrupts_outcome_iff : Interrupts (outcome shape text result) ↔ Fails result := by
  rcases result with fault | _ | degrees <;> rfl

theorem quantity_of_degrees [UnitLibrary] (named : checked shape latitude token = .ok text)
    (read : Quantity.read text = result.map fun degrees => degrees.map (⟨·, .degree⟩)) :
    quantity shape place latitude token = outcome shape text result := by
  rw [quantity_eq, named]
  simp only [read]
  rcases result with fault | _ | degrees <;> rfl

theorem checked_text {angle : Sexagesimal} (wellFormed : angle.IsWellFormed) (shape : Text) (latitude : Bool) :
    checked shape latitude angle.text = .ok (if latitude then dotted angle.text else angle.text) := by
  rw [checked, ← angle.loose_text, nameUnit_text (Sexagesimal.loose_isWellFormed wellFormed)]
  rfl

variable [UnitLibrary] {declination : Declination} (wellFormed : declination.IsWellFormed) (shape : Text) (place : Unit)
include wellFormed

theorem quantity_letters : quantity shape place true (declination.written .degrees).text =
    outcome shape (declination.written .degrees).text (UnitLibrary.degrees (declination.written .degrees)) := by
  have formed := wellFormed.written .degrees
  have named := checked_text formed shape true
  rw [if_pos rfl, dotted_of_notMem (colon_notMem formed nofun)] at named
  refine quantity_of_degrees named ?_
  rw [Quantity.read, trim, trimWhere_of_forall (Sexagesimal.solid formed), Sexagesimal.ofText?_text formed]
  cases read : UnitLibrary.degrees (declination.written .degrees) <;> simp only [read] <;> rfl

theorem quantity_colons [LawfulUnitLibrary] : quantity shape place true (declination.written .colons).text =
    outcome shape declination.pointed declination.pointedDegrees := by
  have named := checked_text (wellFormed.written .colons) shape true
  rw [if_pos rfl, dotted_colons (wellFormed.written .colons) rfl] at named
  exact quantity_of_degrees named (Declination.read_pointed wellFormed)

end Token

/-- Two answers to the same declination: both are refused for their format, or both are its degrees. -/
inductive AgreeOn (degrees : Number) : Except Setback Quantity → Except Setback Quantity → Prop
  | refused {first second : Complaint} (format : first.kind = .format) (format' : second.kind = .format) :
      AgreeOn degrees (.error (.complaint first)) (.error (.complaint second))
  | read : AgreeOn degrees (.ok ⟨degrees, .degree⟩) (.ok ⟨degrees, .degree⟩)

theorem agreeOn_outcome_iff {degrees : Number} {shape text text' : Text}
    {first second : Except ReadingFault (Option Number)} :
    AgreeOn degrees (Token.outcome shape text first) (Token.outcome shape text' second) ↔
      first = .ok none ∧ second = .ok none ∨ first = .ok (some degrees) ∧ second = .ok (some degrees) := by
  constructor
  · intro agree
    rcases first with _ | _ | value <;> rcases second with _ | _ | value' <;> cases agree
    · exact .inl ⟨rfl, rfl⟩
    · exact .inr ⟨rfl, rfl⟩
  · rintro (⟨rfl, rfl⟩ | ⟨rfl, rfl⟩)
    · exact .refused rfl rfl
    · exact .read

namespace Declination

variable {declination : Declination}

def IsWhole (declination : Declination) : Prop :=
  declination.degrees.isInteger = true ∧ declination.minutes.isInteger = true

/-- Degrees and minutes are whole, and letters would not take the minutes or the seconds: they are above sixty, or the
seconds have more digits than an integer may have. With colons the parts are added up all the same. -/
def IsUnchecked (declination : Declination) : Prop :=
  declination.IsWhole ∧
    (60 < declination.minutes.whole.digitsValue ∨ Floating.below 60 declination.seconds.toNumber = true ∨
      declination.seconds.isInteger = true ∧ digitLimit < declination.seconds.whole.length)

/-- One of degrees and minutes has digits after its point, and the other parts have no point. Once the colons are
points, those digits are a part of their own. -/
def IsRegrouped (declination : Declination) : Prop :=
  declination.seconds.isInteger = true ∧
    (declination.degrees.places ≠ 0 ∧ declination.minutes.isInteger = true ∨
      declination.degrees.isInteger = true ∧ declination.minutes.places ≠ 0)

theorem IsWhole.not_isRegrouped (whole : declination.IsWhole) : ¬declination.IsRegrouped := by
  have places {decimal : Decimal} (integer : decimal.isInteger = true) : decimal.places = 0 := by
    rw [Decimal.isInteger, Option.isNone_iff_eq_none] at integer
    rw [Decimal.places, integer]
    rfl
  rintro ⟨_, ⟨further, _⟩ | ⟨_, further⟩⟩
  · exact further (places whole.1)
  · exact further (places whole.2)

/-- Colons of whole degrees and minutes are read, unless they stop the reading. -/
theorem IsWhole.pointedDegrees_eq_ok (whole : declination.IsWhole) (colons : ¬Fails declination.pointedDegrees) :
    ¬Fails declination.plain.toDegrees ∧ declination.pointedDegrees = .ok (some declination.plain.inDegrees) := by
  have added : declination.pointedDegrees = some <$> declination.plain.toDegrees := by
    simp only [IsWhole, Decimal.isInteger, Option.isNone_iff_eq_none] at whole
    rw [pointedDegrees, dotted?, whole.1, whole.2, Option.elim_some]
  rw [added] at colons ⊢
  have moderate := mt (failsWith_map some _).mpr colons
  exact ⟨moderate, congrArg (some <$> ·) (DottedAngle.toDegrees_eq moderate)⟩

theorem pointedDegrees_eq_none_iff (parted : ¬declination.IsWhole) :
    declination.pointedDegrees = .ok none ↔ ¬declination.IsRegrouped := by
  have refused : declination.pointedDegrees = .ok none ↔ declination.dotted? = none := by
    rw [pointedDegrees]
    cases declination.dotted? with
    | none => simp
    | some angle => cases read : angle.toDegrees <;> simp [read, Functor.map, Except.map]
  rw [refused]
  obtain ⟨sign, ⟨degrees, first⟩, ⟨minutes, second⟩, ⟨seconds, third⟩⟩ := declination
  simp only [IsWhole, Decimal.isInteger, Option.isNone_iff_eq_none] at parted
  rcases first with _ | _ | ⟨c, places⟩ <;> rcases second with _ | _ | ⟨c', places'⟩ <;> cases third <;>
    simp_all [dotted?, IsRegrouped, Decimal.isInteger, Decimal.places]

theorem degrees_written [UnitLibrary] [LawfulUnitLibrary]
    (letters : ¬Fails (UnitLibrary.degrees (declination.written .degrees))) :
    UnitLibrary.degrees (declination.written .degrees) = .ok (
      if declination.degrees.isInteger && declination.minutes.isInteger &&
          ((declination.written .degrees).isReadable && (declination.written .degrees).isInRange) then
        some declination.plain.inDegrees
      else none) := by
  rw [Sexagesimal.degrees_eq rfl letters, Sexagesimal.isProper, Bool.and_assoc]
  rfl

/-- What letters ask of the parts besides being whole, where colons are read. -/
theorem isChecked_iff (whole : declination.IsWhole) (colons : ¬Fails declination.plain.toDegrees) :
    ((declination.written .degrees).isReadable && (declination.written .degrees).isInRange) = true ↔
      ¬declination.IsUnchecked := by
  rw [DottedAngle.toDegrees_fails_iff, DottedAngle.IsExcessive, not_or, not_or, not_lt, not_lt] at colons
  have degrees : declination.degrees.whole.length ≤ digitLimit := colons.1
  have minutes : declination.minutes.whole.length ≤ digitLimit := colons.2.1
  have readable : (declination.written .degrees).isReadable =
      ((!declination.degrees.isInteger || declination.degrees.whole.length ≤ digitLimit) &&
        (!declination.minutes.isInteger || declination.minutes.whole.length ≤ digitLimit) &&
          (!declination.seconds.isInteger || declination.seconds.whole.length ≤ digitLimit)) := rfl
  have inRange : (declination.written .degrees).isInRange =
      (declination.minutes.whole.digitsValue ≤ 60 && !Floating.below 60 declination.seconds.toNumber) := rfl
  rw [readable, inRange, IsUnchecked, and_iff_right whole]
  simp only [Bool.and_eq_true, Bool.or_eq_true, Bool.not_eq_true', decide_eq_true_eq]
  grind

/-- Where neither token stops the reading, both are refused or both are the same degrees, unless the parts are unchecked
with colons or are regrouped by them. Colons of whole degrees and minutes are these degrees in any case. -/
theorem agreeOn_iff [UnitLibrary] [LawfulUnitLibrary] (wellFormed : declination.IsWellFormed) (shape : Text) (place : Unit)
    (colons : ¬Interrupts (Token.quantity shape place true (declination.written .colons).text))
    (letters : ¬Interrupts (Token.quantity shape place true (declination.written .degrees).text)) :
    (AgreeOn declination.plain.inDegrees (Token.quantity shape place true (declination.written .colons).text)
        (Token.quantity shape place true (declination.written .degrees).text) ↔
      ¬declination.IsUnchecked ∧ ¬declination.IsRegrouped) ∧
    (declination.IsWhole → Token.quantity shape place true (declination.written .colons).text =
      .ok ⟨declination.plain.inDegrees, .degree⟩) := by
  rw [Token.quantity_colons wellFormed, Token.interrupts_outcome_iff] at colons
  rw [Token.quantity_letters wellFormed, Token.interrupts_outcome_iff] at letters
  rw [Token.quantity_colons wellFormed, Token.quantity_letters wellFormed, agreeOn_outcome_iff,
    degrees_written letters]
  by_cases whole : declination.IsWhole
  -- Colons are read, so the tokens agree exactly if letters are.
  · obtain ⟨moderate, read⟩ := whole.pointedDegrees_eq_ok colons
    have parts : (declination.degrees.isInteger && declination.minutes.isInteger) = true :=
      Bool.and_eq_true_iff.mpr whole
    rw [read, parts, Bool.true_and, and_iff_left whole.not_isRegrouped, ← isChecked_iff whole moderate]
    refine ⟨?_, fun _ => rfl⟩
    cases (declination.written .degrees).isReadable && (declination.written .degrees).isInRange with
    | false => simp
    | true => simp
  -- Letters are refused, so the tokens agree exactly if colons are.
  · have parts : (declination.degrees.isInteger && declination.minutes.isInteger) = false :=
      Bool.eq_false_iff.mpr (mt Bool.and_eq_true_iff.mp whole)
    have unchecked : ¬declination.IsUnchecked := fun unchecked => whole unchecked.1
    rw [parts, Bool.false_and, and_iff_right unchecked, ← pointedDegrees_eq_none_iff whole]
    exact ⟨by simp, fun whole' => absurd whole' whole⟩

section

open CommonUnits

theorem agreeOn_below_zero :
    let declination : Declination := ⟨some .minus, ⟨['0'], none⟩, ⟨"15".toList, none⟩, ⟨"30".toList, some ['5']⟩⟩
    let colons := Token.quantity "point".toList .degree true "-0:15:30.5".toList
    let letters := Token.quantity "point".toList .degree true "-0d15m30.5s".toList
    declination.IsWellFormed ∧ (declination.written .colons).text = "-0:15:30.5".toList ∧
      (declination.written .degrees).text = "-0d15m30.5s".toList ∧ ¬Interrupts colons ∧ ¬Interrupts letters ∧
        AgreeOn declination.plain.inDegrees colons letters ∧ colons = .ok ⟨declination.plain.inDegrees, .degree⟩ := by
  intro declination colons letters
  have wellFormed : declination.IsWellFormed :=
    ⟨⟨by decide, by decide⟩, ⟨by decide, by decide⟩, ⟨by decide, by decide⟩⟩
  have returns {result : Except Setback Quantity} (read : result.toOption.isSome = true) : ¬Interrupts result := by
    cases result with
    | error setback => cases read
    | ok quantity => exact id
  have colonsRead : ¬Interrupts colons := returns (by decide +kernel)
  have lettersRead : ¬Interrupts letters := returns (by decide +kernel)
  have whole : declination.IsWhole := ⟨rfl, rfl⟩
  have checked : ¬declination.IsUnchecked := by
    rintro ⟨_, above⟩
    revert above
    decide +kernel
  obtain ⟨agree, read⟩ := agreeOn_iff wellFormed "point".toList .degree colonsRead lettersRead
  exact ⟨wellFormed, rfl, rfl, colonsRead, lettersRead, agree.mpr ⟨checked, whole.not_isRegrouped⟩, read whole⟩

/-- Seventy minutes are read with colons only. -/
theorem not_agreeOn_seventy_minutes :
    let declination : Declination := ⟨none, ⟨"10".toList, none⟩, ⟨"70".toList, none⟩, ⟨"00".toList, none⟩⟩
    declination.IsWellFormed ∧ (declination.written .colons).text = "10:70:00".toList ∧
      (declination.written .degrees).text = "10d70m00s".toList ∧
      ¬AgreeOn declination.plain.inDegrees (Token.quantity "point".toList .degree true "10:70:00".toList)
        (Token.quantity "point".toList .degree true "10d70m00s".toList) := by
  intro declination
  have wellFormed : declination.IsWellFormed :=
    ⟨⟨by decide, by decide⟩, ⟨by decide, by decide⟩, ⟨by decide, by decide⟩⟩
  refine ⟨wellFormed, rfl, rfl, ?_⟩
  generalize colons : Token.quantity "point".toList .degree true "10:70:00".toList = first
  generalize letters : Token.quantity "point".toList .degree true "10d70m00s".toList = second
  have read : first.toOption.isSome = true := by
    rw [← colons]
    decide +kernel
  have refused : second.toOption = none := by
    rw [← letters]
    decide +kernel
  intro agree
  cases agree with
  | refused _ _ => cases read
  | read => cases refused

end

end Declination
end SkyRegion
