import Mathlib.Data.Option.Basic
import SkyRegion.Proofs.Numerals
import SkyRegion.Proofs.Trimming
import SkyRegion.CommonUnits.Library

/-! Texts that are no unit. Digits and points spell a unit of the common ones only as a single number, and none of
these begins with a colon; so the common units are a lawful library. -/

namespace SkyRegion

open Text

theorem Sign.count_point (sign : Option Sign) : (text sign).count '.' = 0 := by
  match sign with
  | none => rfl
  | some .plus => rfl
  | some .minus => rfl

theorem Decimal.count_point {decimal : Decimal} (wellFormed : decimal.IsWellFormed) :
    decimal.text.count '.' = if decimal.isInteger then 0 else 1 := by
  have digits {run : Text} (all : ∀ c ∈ run, isDigit c = true) : run.count '.' = 0 :=
    List.count_eq_zero.mpr fun member => absurd (all _ member) (by decide)
  have whole := digits wellFormed.whole
  have fraction := digits wellFormed.fraction
  rw [Decimal.text, List.count_append, whole, isInteger]
  cases written : decimal.fraction with
  | none => rfl
  | some places => simpa [written] using fraction

namespace Numeral

variable {numeral : Numeral} {text rest : Text}

theorem count_point_le (wellFormed : numeral.IsWellFormed) : numeral.text.count '.' ≤ 1 := by
  have exponent : ((numeral.exponent.map Exponent.text).getD []).count '.' = 0 := by
    cases written : numeral.exponent with
    | none => rfl
    | some exponent =>
      exact List.count_eq_zero.mpr fun member => absurd ((wellFormed.exponent exponent written).mem_text member) (by decide)
  rw [text_eq, List.count_append, List.count_append, Sign.count_point, exponent, Decimal.count_point wellFormed.decimal]
  split <;> decide

/-- What is left after a number is left of the text after its sign. -/
theorem suffix_of_scan? (scanned : scan? text = some (numeral, rest)) : rest <:+ (Sign.scan text).2 := by
  rw [scan?] at scanned
  simp only [Option.bind_eq_bind, Option.bind_eq_some_iff, Prod.exists] at scanned
  obtain ⟨decimal, after, read, ⟨⟩⟩ := scanned
  obtain ⟨_, _, split⟩ := Decimal.scan?_sound read
  rw [split]
  obtain ⟨_, split⟩ := @Exponent.scan_sound after
  refine List.IsSuffix.trans ?_ (List.suffix_append _ _)
  exact ⟨_, split.symm⟩

theorem trim_of_scan? (solid : ∀ c ∈ text, isBlank c = false) (scanned : scan? text = some (numeral, rest)) :
    rest.trim = rest := by
  obtain ⟨_, rfl⟩ := scan?_sound scanned
  exact trimWhere_of_forall fun c member => solid c (List.mem_append_right _ member)

end Numeral

namespace UnitLexeme

/-- A lexeme that digits and points can spell. -/
def IsUnsigned : UnitLexeme → Prop
  | .number numeral => numeral.sign = none
  | .letters _ => False
  | .times => True

variable {text : Text} {lexeme : UnitLexeme} {lexemes : List UnitLexeme}

theorem scan?_of_first? {numeral : Numeral} (found : first? text = some (.number numeral)) :
    ∃ rest, Numeral.scan? text = some (numeral, rest) := by
  cases text with
  | nil => cases found
  | cons c rest =>
    rw [first?] at found
    split at found
    · cases found
    · split at found
      · cases found
      · split at found
        · rename_i scanned
          cases found
          exact ⟨_, scanned⟩
        · split at found <;> cases found

theorem first?_unsigned (digits : ∀ c ∈ text, isDigit c = true ∨ c = '.') (found : first? text = some lexeme) :
    lexeme.IsUnsigned := by
  cases text with
  | nil => cases found
  | cons c rest =>
    have leads := digits c List.mem_cons_self
    have letter : (isWord c && !isDigit c) = false := by
      rcases leads with digit | rfl
      · simp [digit]
      · decide +kernel
    have unsigned := Sign.ne_mark_of_digit_or_point leads
    cases lexeme with
    | times => trivial
    | letters run =>
      rw [first?] at found
      simp only [letter, Bool.false_eq_true, if_false] at found
      split at found
      · cases found
      · split at found
        · cases found
        · split at found <;> cases found
    | number numeral =>
      obtain ⟨after, scanned⟩ := scan?_of_first? found
      have signless : Sign.scan (c :: rest) = (none, c :: rest) :=
        @Sign.scan_text_append none (c :: rest) (by rintro _ ⟨⟩; exact unsigned)
      simp only [Numeral.scan?, signless, Option.bind_eq_bind, Option.bind_eq_some_iff, Prod.exists] at scanned
      obtain ⟨_, _, _, ⟨⟩⟩ := scanned
      rfl

theorem listAfter?_unsigned {pending : Nat} (digits : ∀ c ∈ text, isDigit c = true ∨ c = '.')
    (found : listAfter? pending text = some lexemes) : ∀ lexeme ∈ lexemes, lexeme.IsUnsigned := by
  induction text generalizing pending lexemes with
  | nil =>
    cases found
    nofun
  | cons c rest ih =>
    have further := fun c member => digits c (List.mem_cons_of_mem _ member)
    cases pending with
    | succ pending => exact ih further found
    | zero =>
      rw [listAfter?] at found
      split at found
      · exact ih further found
      · simp only [Option.bind_eq_bind, Option.bind_eq_some_iff, Option.pure_def, Option.some.injEq] at found
        obtain ⟨lexeme, first, following, later, rfl⟩ := found
        exact List.forall_mem_cons.mpr ⟨first?_unsigned digits first, ih further later⟩

theorem length_le_of_listAfter? {pending : Nat} (spaceless : ' ' ∉ text) (found : listAfter? pending text = some []) :
    text.length ≤ pending := by
  induction text generalizing pending with
  | nil => exact Nat.zero_le _
  | cons c rest ih =>
    obtain ⟨other, spaceless⟩ := List.ne_and_not_mem_of_not_mem_cons spaceless
    cases pending with
    | succ pending => exact Nat.succ_le_succ (ih spaceless found)
    | zero =>
      simp only [listAfter?, if_neg other.symm, Option.bind_eq_bind, Option.bind_eq_some_iff, Option.pure_def] at found
      obtain ⟨_, _, _, _, ⟨⟩⟩ := found

theorem text_of_single {numeral : Numeral} (spaceless : ' ' ∉ text)
    (split : listAfter? 0 text = some [.number numeral]) : numeral.IsWellFormed ∧ text = numeral.text := by
  cases text with
  | nil => cases split
  | cons c rest =>
    obtain ⟨other, spaceless⟩ := List.ne_and_not_mem_of_not_mem_cons spaceless
    simp only [listAfter?, if_neg other.symm, Option.bind_eq_bind, Option.bind_eq_some_iff, Option.pure_def,
      Option.some.injEq, List.cons.injEq] at split
    obtain ⟨_, first, _, later, rfl, rfl⟩ := split
    obtain ⟨after, scanned⟩ := scan?_of_first? first
    obtain ⟨wellFormed, written⟩ := Numeral.scan?_sound scanned
    have short := length_le_of_listAfter? spaceless later
    have present := List.length_pos_of_ne_nil wellFormed.text_ne_nil
    have lengths := congrArg List.length written
    simp only [List.length_cons, List.length_append, length] at lengths short
    have nothing : after = [] := List.eq_nil_of_length_eq_zero (by omega)
    rw [nothing, List.append_nil] at written
    exact ⟨wellFormed, written⟩

/-- A mark needs a symbol after it, and an unsigned text has none. -/
theorem withoutMarks?_unsigned {bare : List UnitLexeme} (unsigned : ∀ lexeme ∈ lexemes, lexeme.IsUnsigned)
    (kept : withoutMarks? lexemes = some bare) :
    bare = lexemes ∧ ∀ lexeme ∈ bare, ∃ numeral : Numeral, numeral.sign = none ∧ lexeme = .number numeral := by
  induction lexemes generalizing bare with
  | nil =>
    cases kept
    exact ⟨rfl, nofun⟩
  | cons lexeme rest ih =>
    rw [List.forall_mem_cons] at unsigned
    rw [withoutMarks?.eq_def] at kept
    split at kept
    · rename_i same
      cases same
    · cases kept
    · rename_i same
      cases same
      exact (unsigned.2 _ (List.mem_cons_of_mem _ List.mem_cons_self)).elim
    · rename_i unmarked _ same
      cases same
      simp only [Option.bind_eq_bind, Option.bind_eq_some_iff, Option.pure_def, Option.some.injEq] at kept
      obtain ⟨rest', kept, rfl⟩ := kept
      obtain ⟨same, numbers⟩ := ih unsigned.2 kept
      refine ⟨by rw [same], List.forall_mem_cons.mpr ⟨?_, numbers⟩⟩
      cases lexeme with
      | number numeral => exact ⟨numeral, unsigned.1, rfl⟩
      | letters run => exact unsigned.1.elim
      | times => exact absurd rfl unmarked

/-- Unsigned numbers side by side are no scale: a power is written with a sign. -/
theorem single_of_leading? (unsigned : ∀ lexeme ∈ lexemes, lexeme.IsUnsigned) {lead : Option Number × List UnitLexeme}
    (leads : (withoutMarks? lexemes >>= CommonUnits.leading?) = some lead) : lexemes = [] ∨ ∃ numeral, lexemes = [.number numeral] := by
  rw [Option.bind_eq_bind, Option.bind_eq_some_iff] at leads
  obtain ⟨bare, kept, leads⟩ := leads
  obtain ⟨rfl, numbers⟩ := withoutMarks?_unsigned unsigned kept
  have unraised (base exponent : Numeral) (bare : exponent.sign = none) : base.raised? exponent = none := by
    simp [Numeral.raised?, bare]
  match bare with
  | [] => exact .inl rfl
  | [lexeme] =>
    obtain ⟨numeral, _, rfl⟩ := numbers _ List.mem_cons_self
    exact .inr ⟨numeral, rfl⟩
  | [first, second] =>
    obtain ⟨base, _, rfl⟩ := numbers first List.mem_cons_self
    obtain ⟨exponent, sign, rfl⟩ := numbers second (List.mem_cons_of_mem _ List.mem_cons_self)
    simp [CommonUnits.leading?, unraised _ _ sign] at leads
  | first :: second :: third :: rest =>
    obtain ⟨factor, _, rfl⟩ := numbers first List.mem_cons_self
    obtain ⟨base, _, rfl⟩ := numbers second (List.mem_cons_of_mem _ List.mem_cons_self)
    obtain ⟨exponent, sign, rfl⟩ := numbers third (List.mem_cons_of_mem _ (List.mem_cons_of_mem _ List.mem_cons_self))
    simp [CommonUnits.leading?, unraised _ _ sign] at leads

end UnitLexeme

namespace CommonUnits

variable {text : Text}

/-- Digits and points are no unit, unless they are one number. -/
theorem numeral_of_unit (present : text ≠ []) (digits : ∀ c ∈ text, isDigit c = true ∨ c = '.')
    (found : unit text ≠ .ok none) : ∃ numeral : Numeral, numeral.IsWellFormed ∧ text = numeral.text := by
  have unnamed : names.lookup text = none := by
    have lettered : ∀ entry ∈ names, entry.1.any (fun c => !(isDigit c || c = '.')) = true := by decide +kernel
    refine List.lookup_eq_none_iff.mpr fun entry listed => bne_iff_ne.mpr ?_
    rintro rfl
    obtain ⟨c, member, other⟩ := List.any_eq_true.mp (lettered entry listed)
    exact absurd (digits c member) (by simpa using other)
  have spaceless : ' ' ∉ text := fun member => absurd (digits _ member) (by decide)
  rw [unit, unnamed] at found
  cases split : UnitLexeme.listAfter? 0 text with
  | none => simp [split] at found
  | some lexemes =>
    have unsigned := UnitLexeme.listAfter?_unsigned digits split
    simp only [split, ofLexemes] at found
    cases leads : UnitLexeme.withoutMarks? lexemes >>= leading? with
    | none => simp [leads] at found
    | some lead =>
      rcases UnitLexeme.single_of_leading? unsigned leads with rfl | ⟨numeral, rfl⟩
      · have empty := UnitLexeme.length_le_of_listAfter? spaceless split
        exact absurd (List.eq_nil_of_length_eq_zero (Nat.le_zero.mp empty)) present
      · exact ⟨numeral, UnitLexeme.text_of_single spaceless split⟩

theorem unit_eq_none_of_points (digits : ∀ c ∈ text, isDigit c = true ∨ c = '.') (points : 2 ≤ text.count '.') :
    unit text = .ok none := by
  by_contra found
  have present : text ≠ [] := by
    rintro rfl
    simp at points
  obtain ⟨numeral, wellFormed, rfl⟩ := numeral_of_unit present digits found
  have single := Numeral.count_point_le wellFormed
  omega

theorem unit_colon (rest : Text) : unit (':' :: rest) = .ok none := by
  have unnamed : names.lookup (':' :: rest) = none := by
    have other : ∀ entry ∈ names, entry.1.head? ≠ some ':' := by decide
    refine List.lookup_eq_none_iff.mpr fun entry listed => bne_iff_ne.mpr ?_
    rintro same
    exact other entry listed (same ▸ rfl)
  have letter : (isWord ':' && !isDigit ':') = false := by decide +kernel
  have scanned : Numeral.scan? (':' :: rest) = none := by
    have digit : isDigit ':' = false := by decide
    simp [Numeral.scan?, Sign.scan, Decimal.scan?, digit]
  have unlexed : UnitLexeme.listAfter? 0 (':' :: rest) = none := by
    simp [UnitLexeme.listAfter?, UnitLexeme.first?, letter, scanned]
  rw [unit, unnamed, unlexed]

theorem degrees_of_letters {angle : Sexagesimal} (letters : angle.form = .degrees) {degrees? : Option Number}
    (answered : degrees angle = .ok degrees?) : degrees? = if angle.isProper then some angle.sum else none := by
  rw [degrees] at answered
  rw [Sexagesimal.isProper]
  cases plain : angle.first.isInteger && angle.second.isInteger && angle.isReadable with
  | false =>
    rw [plain] at answered
    cases answered
    rfl
  | true =>
    simp only [plain, Bool.not_true, Bool.false_eq_true, if_false] at answered
    split at answered
    · cases answered
    · cases inRange : angle.isInRange with
      | false =>
        rw [inRange] at answered
        cases answered
        rfl
      | true =>
        simp only [inRange, letters, SexagesimalForm.countsHours, Bool.not_true, Bool.false_eq_true, if_false,
          Except.ok.injEq] at answered
        exact answered.symm

scoped instance : LawfulUnitLibrary where
  unit_deg := by decide +kernel
  unit_rad := by decide +kernel
  unit_colon := unit_colon
  unit_points := unit_eq_none_of_points
  degrees_letters := degrees_of_letters

end CommonUnits
end SkyRegion
