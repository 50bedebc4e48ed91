import SkyRegion.Proofs.NumeralToken
import SkyRegion.Proofs.UnitText

/-! The grammar of tokens against their reading. A token is documented as a number, a number with a unit letter or
an angle in three parts; the reading accepts no other, except tokens that begin with three numbers and the marks of
an angle and still are none. -/

namespace SkyRegion

open Text SexagesimalForm

/-- What is left of digits and points after a number is digits and points. -/
theorem Numeral.rest_of_scan? {numeral : Numeral} {sign : Option Sign} {unsigned rest : Text}
    (digits : ∀ c ∈ unsigned, isDigit c = true ∨ c = '.')
    (scanned : scan? (Sign.text sign ++ unsigned) = some (numeral, rest)) :
    (∀ c ∈ rest, isDigit c = true ∨ c = '.') ∧ rest.trim = rest := by
  have signless : ∀ c ∈ unsigned.head?, c ≠ '+' ∧ c ≠ '-' :=
    fun c first => Sign.ne_mark_of_digit_or_point (digits c (List.mem_of_head? first))
  have following := suffix_of_scan? scanned
  rw [Sign.scan_text_append sign signless] at following
  have digits' : ∀ c ∈ rest, isDigit c = true ∨ c = '.' := fun c member => digits c (following.subset member)
  exact ⟨digits', trimWhere_of_forall fun c member => isBlank_of_isMark (isMark_of_digit_or_point (digits' c member))⟩

namespace Unit

variable [UnitLibrary]

/-- The library is asked for what is no alias. -/
theorem read_eq_unit {text : Text} (unnamed : ∀ entry ∈ aliases, entry.1 ≠ text) : read text = UnitLibrary.unit text := by
  have missing : aliases.lookup text = none :=
    List.lookup_eq_none_iff.mpr fun entry listed => bne_iff_ne.mpr (unnamed entry listed).symm
  rw [read, missing]

variable [LawfulUnitLibrary]

theorem read_colon (rest : Text) : read (':' :: rest) = .ok none := by
  have other : ∀ entry ∈ aliases, entry.1.head? ≠ some ':' := by decide
  rw [read_eq_unit fun entry listed same => other entry listed (same ▸ rfl), LawfulUnitLibrary.unit_colon]

theorem read_points {text : Text} (digits : ∀ c ∈ text, isDigit c = true ∨ c = '.') (points : 2 ≤ text.count '.') :
    read text = .ok none := by
  have other : ∀ entry ∈ aliases, entry.1.count '.' = 0 := by decide
  rw [read_eq_unit ?_, LawfulUnitLibrary.unit_points digits points]
  rintro entry listed rfl
  have none := other entry listed
  omega

end Unit

namespace Quantity

variable [UnitLibrary] {text : Text} {quantity : Quantity}

theorem readNumberAndUnit_sound (reads : readNumberAndUnit text = .ok (some quantity)) :
    ∃ numeral rest, Numeral.scan? text = some (numeral, rest) ∧
      (rest.trim = [] ∨ ∃ unit, Unit.read rest.trim = .ok (some unit)) := by
  rw [readNumberAndUnit] at reads
  split at reads
  · cases reads
  · rename_i numeral rest scanned
    refine ⟨numeral, rest, scanned, ?_⟩
    split at reads
    · cases reads
    · split at reads
      · exact .inl (List.isEmpty_iff.mp ‹_›)
      · cases measured : Unit.read rest.trim with
        | error fault => simp [measured, bind, Except.bind] at reads
        | ok unit =>
          cases unit with
          | none =>
            rw [measured] at reads
            cases reads
          | some unit => exact .inr ⟨unit, rfl⟩

/-- One point may stand in the number, and one in the unit. -/
theorem readNumberAndUnit_eq_none [LawfulUnitLibrary] {sign : Option Sign} {unsigned : Text}
    (digits : ∀ c ∈ unsigned, isDigit c = true ∨ c = '.') (points : 3 ≤ unsigned.count '.') :
    readNumberAndUnit (Sign.text sign ++ unsigned) = .ok none := by
  rw [readNumberAndUnit]
  cases scanned : Numeral.scan? (Sign.text sign ++ unsigned) with
  | none => rfl
  | some found =>
    obtain ⟨numeral, rest⟩ := found
    obtain ⟨formed, written⟩ := Numeral.scan?_sound scanned
    obtain ⟨digits', kept⟩ := Numeral.rest_of_scan? digits scanned
    have further : 2 ≤ rest.count '.' := by
      have total := congrArg (List.count '.') written
      have first := Numeral.count_point_le formed
      rw [List.count_append, List.count_append, Sign.count_point] at total
      omega
    have present : rest.isEmpty = false := by
      cases rest with
      | nil => simp at further
      | cons c rest => rfl
    simp only [kept, present, Unit.read_points digits' further, Bool.false_eq_true, if_false]
    split <;> rfl

end Quantity

/-- Three numbers with the marks of an angle between them, where the parts of an angle would be plain. -/
structure LooseAngle where
  form : SexagesimalForm
  first : Numeral
  second : Numeral
  third : Numeral

namespace LooseAngle

structure IsWellFormed (angle : LooseAngle) : Prop where
  first : angle.first.IsWellFormed
  second : angle.second.IsWellFormed
  third : angle.third.IsWellFormed

def text (angle : LooseAngle) : Text :=
  angle.first.text ++ angle.form.marks.1 :: (angle.second.text ++ angle.form.marks.2.1 ::
    (angle.third.text ++ angle.form.marks.2.2))

variable {angle : LooseAngle} {numeral : Numeral}

theorem scan?_text (wellFormed : angle.IsWellFormed) (after : Text) : Numeral.scan? (angle.text ++ after) =
    some (angle.first, angle.form.marks.1 :: (angle.second.text ++ angle.form.marks.2.1 ::
      (angle.third.text ++ angle.form.marks.2.2) ++ after)) := by
  rw [text, List.append_assoc, List.cons_append]
  refine Numeral.scan?_append wellFormed.first (Numeral.ends_of_isDivider ?_)
  rintro c ⟨⟩
  exact isDivider_early _

/-- More than one character follows the first number. -/
theorem text_append_ne (wellFormed : angle.IsWellFormed) (formed : numeral.IsWellFormed) (after : Text) {rest : Text}
    (ends : numeral.Ends rest) (short : rest.length ≤ 1) : angle.text ++ after ≠ numeral.text ++ rest := by
  intro same
  have scanned := scan?_text wellFormed after
  rw [same, Numeral.scan?_append formed ends, Option.some.injEq, Prod.mk.injEq] at scanned
  have present := List.length_pos_of_ne_nil wellFormed.second.text_ne_nil
  have lengths := congrArg List.length scanned.2
  simp only [List.length_cons, List.length_append] at lengths
  omega

end LooseAngle

/-- The first mark of an angle stands in no number. -/
theorem Sexagesimal.ofText?_eq_none_of_isMark {text : Text} (marks : ∀ c ∈ text, Numeral.isMark c = true) :
    ofText? text = none := by
  by_contra present
  obtain ⟨angle, reads⟩ := Option.ne_none_iff_exists'.mp present
  obtain ⟨_, written⟩ := ofText?_sound reads
  have early : angle.form.marks.1 ∈ angle.text := by simp [text_eq]
  have other : Numeral.isMark angle.form.marks.1 = false := by cases angle.form <;> decide
  simp [marks _ (written ▸ early)] at other

namespace Token

/-- The documented tokens with their quantities, at a place that has a unit for bare numbers. -/
inductive Documents (place : Unit) : Text → Quantity → Prop
  | bare {numeral : Numeral} (wellFormed : numeral.IsWellFormed) :
      Documents place numeral.text ⟨numeral.toNumber, place⟩
  | lettered {numeral : Numeral} {letter : Char} {unit : Unit} (wellFormed : numeral.IsWellFormed)
      (known : letterUnits.lookup letter = some unit) :
      Documents place (numeral.text ++ [letter]) ⟨numeral.toNumber, unit⟩
  | angle {angle : Sexagesimal} (wellFormed : angle.IsWellFormed) (degrees : Number) :
      Documents place angle.text ⟨degrees, .degree⟩

/-- Begins like an angle in three parts, with colons only where they become points, and is no such angle. -/
def IsIrregular (latitude : Bool) (token : Text) : Prop :=
  (∃ (angle : LooseAngle) (after : Text), angle.IsWellFormed ∧ token = angle.text ++ after ∧
    (angle.form = .colons → latitude = true)) ∧
    ∀ angle : Sexagesimal, angle.IsWellFormed → token ≠ angle.text

variable {shape token text rest : Text} {place : Unit} {latitude : Bool} {quantity : Quantity}

theorem afterPart?_sound {mark : Char} (solid : ∀ c ∈ token, isBlank c = false)
    (found : afterPart? mark token = some rest) :
    ∃ numeral : Numeral, numeral.IsWellFormed ∧ token = numeral.text ++ mark :: rest := by
  rw [afterPart?] at found
  split at found
  · rename_i after
    rw [Option.ite_none_right_eq_some] at found
    obtain ⟨rfl, ⟨⟩⟩ := found
    exact afterNumeral?_sound solid after
  · cases found

theorem beginsLike_sound {form : SexagesimalForm} (solid : ∀ c ∈ token, isBlank c = false)
    (begins : beginsLike form token = true) :
    ∃ (angle : LooseAngle) (after : Text), angle.IsWellFormed ∧ token = angle.text ++ after := by
  simp only [beginsLike] at begins
  split at begins
  · rename_i after found
    simp only [Option.bind_eq_bind, Option.bind_eq_some_iff] at found
    obtain ⟨_, ⟨_, isFirst, isSecond⟩, isThird⟩ := found
    obtain ⟨first, firstFormed, rfl⟩ := afterPart?_sound solid isFirst
    rw [List.forall_mem_append, List.forall_mem_cons] at solid
    obtain ⟨second, secondFormed, rfl⟩ := afterPart?_sound solid.2.2 isSecond
    rw [List.forall_mem_append, List.forall_mem_cons] at solid
    obtain ⟨third, thirdFormed, rfl⟩ := afterNumeral?_sound solid.2.2.2.2 isThird
    obtain ⟨after, rfl⟩ := List.isPrefixOf_iff_prefix.mp begins
    exact ⟨⟨form, first, second, third⟩, after, ⟨firstFormed, secondFormed, thirdFormed⟩, by simp [LooseAngle.text]⟩
  · cases begins

/-- A unit is named for a bare number, for a number and a letter, and for what begins like an angle. -/
theorem nameUnit_sound (solid : ∀ c ∈ token, isBlank c = false) (named : nameUnit shape token = .ok text) :
    (∃ numeral : Numeral, numeral.IsWellFormed ∧ token = numeral.text) ∨
      (∃ (numeral : Numeral) (letter : Char) (unit : Unit), numeral.IsWellFormed ∧
        letterUnits.lookup letter = some unit ∧ token = numeral.text ++ [letter]) ∨
      text = token ∧ ∃ (angle : LooseAngle) (after : Text), angle.IsWellFormed ∧ token = angle.text ++ after := by
  rw [nameUnit] at named
  split at named
  · cases named
  · rename_i bare
    obtain ⟨numeral, wellFormed, rfl⟩ := afterNumeral?_sound solid bare
    exact .inl ⟨numeral, wellFormed, List.append_nil _⟩
  · rename_i letter lettered
    obtain ⟨numeral, wellFormed, rfl⟩ := afterNumeral?_sound solid lettered
    cases spelled : unitLetters.lookup letter with
    | none => simp [spelled] at named
    | some name =>
      have listed := isSome_lookup_letterUnits letter
      rw [spelled, Option.isSome_some, Option.isSome_iff_exists] at listed
      obtain ⟨unit, known⟩ := listed
      exact .inr (.inl ⟨numeral, letter, unit, wellFormed, known, rfl⟩)
  · split at named
    · rename_i begins
      cases named
      simp only [Bool.or_eq_true] at begins
      refine .inr (.inr ⟨rfl, ?_⟩)
      rcases begins with (colons | hours) | degrees
      · exact beginsLike_sound solid colons
      · exact beginsLike_sound solid hours
      · exact beginsLike_sound solid degrees
    · cases named

theorem read_of_quantity [UnitLibrary] (reads : Token.quantity shape place latitude token = .ok quantity) :
    ∃ text found, nameUnit shape token = .ok text ∧
      Quantity.read (if latitude then dotted text else text) = .ok (some found) ∧
      quantity = if found.unit = .one then { found with unit := place } else found := by
  rw [quantity_eq, checked] at reads
  cases named : nameUnit shape token with
  | error complaint => simp [named, Except.map] at reads
  | ok text =>
    simp only [named, Except.map] at reads
    generalize reading : Quantity.read (if latitude then dotted text else text) = result at reads
    rcases result with fault | _ | found
    · cases reads
    · cases reads
    · cases reads
      exact ⟨text, found, rfl, reading, rfl⟩

/-- A sign and three decimals with points between them. -/
def pointed (sign : Option Sign) (first second third : Decimal) : Text :=
  Sign.text sign ++ (first.text ++ '.' :: (second.text ++ '.' :: third.text))

section pointed

variable {sign : Option Sign} {first second third : Decimal} (firstFormed : first.IsWellFormed)
  (secondFormed : second.IsWellFormed) (thirdFormed : third.IsWellFormed)
include firstFormed secondFormed thirdFormed

/-- Points in place of both marks make a dotted angle of whole parts. -/
theorem dottedAngle_of_integers (firstWhole : first.isInteger = true)
    (secondWhole : second.isInteger = true) (thirdWhole : third.isInteger = true) :
    (DottedAngle.ofText? (pointed sign first second third)).isSome = true := by
  have present {decimal : Decimal} (formed : decimal.IsWellFormed) (whole : decimal.isInteger = true) :
      decimal.text = decimal.whole ∧ decimal.whole ≠ [] := by
    have some := formed.present
    simp_all [Decimal.isInteger, Decimal.text, Decimal.digits]
  obtain ⟨firstText, someFirst⟩ := present firstFormed firstWhole
  obtain ⟨secondText, someSecond⟩ := present secondFormed secondWhole
  have formed : DottedAngle.IsWellFormed ⟨sign, first.whole, second.whole, third⟩ :=
    ⟨firstFormed.whole, secondFormed.whole, thirdFormed, someFirst, someSecond, (present thirdFormed thirdWhole).2⟩
  have reads := DottedAngle.ofText?_text formed
  rw [DottedAngle.text_eq] at reads
  rw [pointed, firstText, secondText, reads]
  rfl

theorem digit_or_point_of_mem_pointed :
    ∀ c ∈ first.text ++ '.' :: (second.text ++ '.' :: third.text), isDigit c = true ∨ c = '.' := by
  simp only [List.mem_append, List.mem_cons]
  rintro c (member | rfl | member | rfl | member)
  · exact firstFormed.mem_text member
  · exact .inr rfl
  · exact secondFormed.mem_text member
  · exact .inr rfl
  · exact thirdFormed.mem_text member

theorem isMark_of_mem_pointed : ∀ c ∈ pointed sign first second third, Numeral.isMark c = true := by
  intro c member
  rcases List.mem_append.mp member with member | member
  · exact Numeral.isMark_of_mem_sign member
  · exact Numeral.isMark_of_digit_or_point (digit_or_point_of_mem_pointed firstFormed secondFormed thirdFormed c member)

/-- A number and a unit have two points at most, and with no more points every part is whole, and the angle is read. -/
theorem readNumberAndUnit_pointed [UnitLibrary] [LawfulUnitLibrary]
    (undotted : DottedAngle.ofText? (pointed sign first second third) = none) :
    Quantity.readNumberAndUnit (pointed sign first second third) = .ok none := by
  have parted : ¬(first.isInteger = true ∧ second.isInteger = true ∧ third.isInteger = true) := by
    rintro ⟨firstWhole, secondWhole, thirdWhole⟩
    have read := @dottedAngle_of_integers sign _ _ _ firstFormed secondFormed thirdFormed firstWhole secondWhole thirdWhole
    simp [undotted] at read
  refine Quantity.readNumberAndUnit_eq_none (digit_or_point_of_mem_pointed firstFormed secondFormed thirdFormed) ?_
  simp only [List.count_append, List.count_cons_self, Decimal.count_point firstFormed, Decimal.count_point secondFormed,
    Decimal.count_point thirdFormed]
  split_ifs <;> first | omega | exact absurd ⟨‹_›, ‹_›, ‹_›⟩ parted

/-- With points in place of its colons an angle is read as the dotted angle that it has become, or not at all. -/
theorem read_pointed [UnitLibrary] : Quantity.read (pointed sign first second third) =
    match DottedAngle.ofText? (pointed sign first second third) with
    | some angle => do return some ⟨← angle.toDegrees, .degree⟩
    | none => Quantity.readNumberAndUnit (pointed sign first second third) := by
  have marks := @isMark_of_mem_pointed sign _ _ _ firstFormed secondFormed thirdFormed
  have trimmed := trimWhere_of_forall fun c member => Numeral.isBlank_of_isMark (marks c member)
  rw [Quantity.read, trim, trimmed, Sexagesimal.ofText?_eq_none_of_isMark marks]
  generalize DottedAngle.ofText? _ = found
  cases found <;> rfl

/-- An angle whose colons have become points is read as degrees, if at all. -/
theorem degree_of_pointed [UnitLibrary] [LawfulUnitLibrary]
    (reads : Quantity.read (pointed sign first second third) = .ok (some quantity)) :
    quantity.unit = .degree := by
  rw [read_pointed firstFormed secondFormed thirdFormed] at reads
  split at reads
  · rename_i angle _
    cases degrees : angle.toDegrees with
    | error fault => simp [degrees, bind, Except.bind] at reads
    | ok value =>
      rw [degrees] at reads
      cases reads
      rfl
  · rename_i undotted
    rw [readNumberAndUnit_pointed firstFormed secondFormed thirdFormed undotted] at reads
    cases reads

end pointed

theorem dotted_append (first second : Text) : dotted (first ++ second) = dotted first ++ dotted second :=
  List.map_append

theorem dotted_colons {angle : Sexagesimal} (wellFormed : angle.IsWellFormed) (colons : angle.form = .colons) :
    dotted angle.text = pointed angle.sign angle.first angle.second angle.third := by
  have sign : dotted (Sign.text angle.sign) = Sign.text angle.sign :=
    dotted_of_notMem fun member => absurd (Numeral.isMark_of_mem_sign member) (by decide)
  have decimal {part : Decimal} (formed : part.IsWellFormed) : dotted part.text = part.text :=
    dotted_of_notMem fun member => absurd (formed.mem_text member) (by decide)
  have colon (rest : Text) : dotted (':' :: rest) = '.' :: dotted rest := rfl
  rw [Sexagesimal.text_eq, colons, pointed]
  simp [SexagesimalForm.marks, dotted_append, sign, colon, decimal wellFormed.first, decimal wellFormed.second,
    decimal wellFormed.third]

theorem colon_notMem {angle : Sexagesimal} (wellFormed : angle.IsWellFormed) (other : angle.form ≠ .colons) :
    ':' ∉ angle.text := by
  have sign : ':' ∉ Sign.text angle.sign := fun member => absurd (Numeral.isMark_of_mem_sign member) (by decide)
  have decimal {part : Decimal} (formed : part.IsWellFormed) : ':' ∉ part.text :=
    fun member => absurd (formed.mem_text member) (by decide)
  rw [Sexagesimal.text_eq]
  cases form : angle.form with
  | colons => exact absurd form other
  | hours => simp [SexagesimalForm.marks, sign, decimal wellFormed.first, decimal wellFormed.second, decimal wellFormed.third]
  | degrees => simp [SexagesimalForm.marks, sign, decimal wellFormed.first, decimal wellFormed.second, decimal wellFormed.third]

theorem Documents.not_isIrregular (documented : Documents place token quantity) : ¬IsIrregular latitude token := by
  rintro ⟨⟨loose, after, formed, written, _⟩, plain⟩
  rcases documented with wellFormed | ⟨wellFormed, known⟩ | ⟨wellFormed, _⟩
  · refine @LooseAngle.text_append_ne _ _ formed wellFormed after [] nofun (by simp) ?_
    rw [← written, List.append_nil]
  · refine LooseAngle.text_append_ne formed wellFormed after (Numeral.ends_of_isDivider ?_) (by simp) written.symm
    rintro c ⟨⟩
    exact isDivider_letter known
  · exact plain _ wellFormed rfl

section

variable [UnitLibrary]

theorem degree_of_read {angle : Sexagesimal} (wellFormed : angle.IsWellFormed) (solid : ∀ c ∈ angle.text, isBlank c = false)
    (reads : Quantity.read angle.text = .ok (some quantity)) : quantity.unit = .degree := by
  have trimmed : angle.text.trim = angle.text := trimWhere_of_forall solid
  rw [Quantity.read, trimmed, Sexagesimal.ofText?_text wellFormed] at reads
  cases degrees : UnitLibrary.degrees angle with
  | error fault => simp [degrees, bind, Except.bind] at reads
  | ok value? =>
    simp only [degrees] at reads
    cases value? with
    | none => cases reads
    | some value =>
      cases reads
      rfl

variable [LawfulUnitLibrary]

theorem degree_of_angle {angle : Sexagesimal} (wellFormed : angle.IsWellFormed) (solid : ∀ c ∈ angle.text, isBlank c = false)
    (reads : Quantity.read (if latitude then dotted angle.text else angle.text) = .ok (some quantity)) :
    quantity.unit = .degree := by
  cases latitude with
  | false => exact degree_of_read wellFormed solid reads
  | true =>
    by_cases colons : angle.form = .colons
    · rw [if_pos rfl, dotted_colons wellFormed colons] at reads
      exact degree_of_pointed wellFormed.first wellFormed.second wellFormed.third reads
    · rw [if_pos rfl, dotted_of_notMem (colon_notMem wellFormed colons)] at reads
      exact degree_of_read wellFormed solid reads

/-- With its colons in place an angle is read only if it is plain, because no unit begins with a colon. -/
theorem angle_of_colons {angle : LooseAngle} {after : Text} (wellFormed : angle.IsWellFormed) (colons : angle.form = .colons)
    (solid : ∀ c ∈ angle.text ++ after, isBlank c = false)
    (reads : Quantity.read (angle.text ++ after) = .ok (some quantity)) :
    ∃ plain : Sexagesimal, plain.IsWellFormed ∧ angle.text ++ after = plain.text := by
  have scanned := LooseAngle.scan?_text wellFormed after
  have trimmed : (angle.text ++ after).trim = angle.text ++ after := trimWhere_of_forall solid
  rw [Quantity.read, trimmed] at reads
  cases sexagesimal : Sexagesimal.ofText? (angle.text ++ after) with
  | some plain => exact ⟨plain, Sexagesimal.ofText?_sound sexagesimal⟩
  | none =>
    cases dotted : DottedAngle.ofText? (angle.text ++ after) with
    | some pointed =>
      obtain ⟨formed, written⟩ := DottedAngle.ofText?_sound dotted
      rw [written, DottedAngle.scan?_text formed, colons] at scanned
      simp [SexagesimalForm.marks] at scanned
    | none =>
      simp only [sexagesimal, dotted] at reads
      obtain ⟨numeral, rest, scanned', measured⟩ := Quantity.readNumberAndUnit_sound reads
      rw [Numeral.trim_of_scan? solid scanned'] at measured
      rw [scanned, Option.some.injEq, Prod.mk.injEq, colons] at scanned'
      obtain ⟨rfl, rfl⟩ := scanned'
      rcases measured with empty | ⟨unit, measured⟩
      · cases empty
      · rw [SexagesimalForm.marks, Unit.read_colon] at measured
        cases measured

/-- A token that is read is documented, unless it is irregular. -/
theorem documents_iff_of_quantity (solid : ∀ c ∈ token, isBlank c = false)
    (reads : Token.quantity shape place latitude token = .ok quantity) :
    Documents place token quantity ↔ ¬IsIrregular latitude token := by
  refine ⟨Documents.not_isIrregular, fun regular => ?_⟩
  obtain ⟨text, found, named, read, same⟩ := read_of_quantity reads
  rcases nameUnit_sound solid named with
    ⟨numeral, wellFormed, rfl⟩ | ⟨numeral, letter, unit, wellFormed, known, rfl⟩ | ⟨rfl, loose, after, formed, written⟩
  · rw [quantity_numeral wellFormed] at reads
    cases reads
    exact .bare wellFormed
  · rw [quantity_lettered wellFormed known] at reads
    cases reads
    exact .lettered wellFormed known
  · by_cases plain : ∃ angle : Sexagesimal, angle.IsWellFormed ∧ text = angle.text
    · obtain ⟨angle, wellFormed, rfl⟩ := plain
      have degree := degree_of_angle wellFormed solid read
      have quantified : found = ⟨found.value, .degree⟩ := by rw [← degree]
      rw [same, if_neg (by rw [degree]; decide), quantified]
      exact .angle wellFormed found.value
    · refine absurd ⟨⟨loose, after, formed, written, fun colons => ?_⟩, fun angle wellFormed same => ?_⟩ regular
      · by_contra longitude
        rw [if_neg longitude] at read
        subst written
        exact plain (angle_of_colons formed colons solid read)
      · exact plain ⟨angle, wellFormed, same⟩

end

section

open CommonUnits

theorem documents_right_ascension :
    let token := "12:30:49.4".toList
    (∀ c ∈ token, isBlank c = false) ∧ ∃ quantity, Token.quantity "point".toList .pixel false token = .ok quantity ∧
      Documents .pixel token quantity := by
  intro token
  have solid : ∀ c ∈ token, isBlank c = false := forall_mem_of_all (by decide +kernel)
  have reads : (Token.quantity "point".toList .pixel false token).toOption.isSome = true := by decide +kernel
  have plain : (Sexagesimal.ofText? token).isSome = true := by decide +kernel
  cases read : Token.quantity "point".toList .pixel false token with
  | error setback =>
    rw [read] at reads
    cases reads
  | ok quantity =>
    obtain ⟨angle, found⟩ := Option.isSome_iff_exists.mp plain
    obtain ⟨wellFormed, written⟩ := Sexagesimal.ofText?_sound found
    have regular : ¬IsIrregular false token := fun irregular => irregular.2 angle wellFormed written
    exact ⟨solid, quantity, rfl, (documents_iff_of_quantity solid read).mpr regular⟩

/-- A fourth part after a declination is taken for decimals of its seconds. -/
theorem quantity_of_four_parts :
    let token := "1:2:3:4".toList
    (∀ c ∈ token, isBlank c = false) ∧ ∃ quantity, Token.quantity "point".toList .degree true token = .ok quantity ∧
      ∀ place, ¬Documents place token quantity := by
  intro token
  have solid : ∀ c ∈ token, isBlank c = false := forall_mem_of_all (by decide +kernel)
  have reads : (Token.quantity "point".toList .degree true token).toOption.isSome = true := by decide +kernel
  have unplain : Sexagesimal.ofText? token = none := by decide +kernel
  cases read : Token.quantity "point".toList .degree true token with
  | error setback =>
    rw [read] at reads
    cases reads
  | ok quantity =>
    have irregular : IsIrregular true token := by
      refine ⟨⟨⟨.colons, ⟨none, ⟨['1'], none⟩, none⟩, ⟨none, ⟨['2'], none⟩, none⟩, ⟨none, ⟨['3'], none⟩, none⟩⟩,
        ":4".toList, ⟨by decide, by decide, by decide⟩, rfl, fun _ => rfl⟩, ?_⟩
      intro angle wellFormed written
      rw [written, Sexagesimal.ofText?_text wellFormed] at unplain
      cases unplain
    exact ⟨solid, quantity, rfl, fun _ documented => documented.not_isIrregular irregular⟩

end

end Token
end SkyRegion
