import SkyRegion.Number.Fixed
import SkyRegion.Number.Layout
import SkyRegion.Proofs.NumeralToken

/-! Texts of numbers. Whoever reads the text of a well-formed number, as a number or as the token of a quantity,
finds one and the same number; and every finite number is written as such a text. -/

namespace SkyRegion

open Text

namespace Text

theorem mem_digits {c : Char} (digit : c.isDigit = true) : c ∈ "0123456789".toList := by
  simp only [Char.isDigit, Bool.and_eq_true, decide_eq_true_eq] at digit
  have low : 48 ≤ c.toNat := digit.1
  have high : c.toNat ≤ 57 := digit.2
  have members : ∀ code < 58, 48 ≤ code → Char.ofNat code ∈ "0123456789".toList := by decide
  rw [← c.ofNat_toNat]
  exact members c.toNat (by omega) low

theorem isDigit_of_isDigit {c : Char} (digit : c.isDigit = true) : isDigit c = true := by
  have each : ∀ c ∈ "0123456789".toList, isDigit c = true := forall_mem_of_all (by decide)
  exact each c (mem_digits digit)

theorem toLower_of_isDigit {c : Char} (digit : isDigit c = true) : c.toLower = c := by
  have other := @inRanges_of_isDigit [(0x41, 0x5A)] (by decide +kernel) c digit
  have small : ¬(c.val ≥ 'A'.val ∧ c.val ≤ 'Z'.val) := by
    rintro ⟨low, high⟩
    have low : 65 ≤ c.toNat := low
    have high : c.toNat ≤ 90 := high
    simp [inRanges, low, high] at other
  exact dif_neg small

theorem ungroup?_of_notMem {text : Text} (missing : '_' ∉ text) (afterDigit : Bool) :
    text.ungroup? afterDigit = some text := by
  induction text generalizing afterDigit with
  | nil => rfl
  | cons c rest ih =>
    obtain ⟨differs, missing⟩ := List.ne_and_not_mem_of_not_mem_cons missing
    rw [ungroup?, ih missing]
    · rfl
    · exact fun _ _ same => absurd same.symm differs
    · exact fun same => absurd same.symm differs

end Text

theorem Number.named?_eq_none {c : Char} {rest : Text} (plain : isDigit c = true ∨ c = '.') (negative : Bool) :
    named? (c :: rest) negative = none := by
  have other : c.toLower ≠ 'i' ∧ c.toLower ≠ 'n' := by
    rcases plain with digit | rfl
    · rw [toLower_of_isDigit digit]
      constructor <;>
      · rintro rfl
        exact absurd digit (by decide)
    · decide
  simp [named?, other]

theorem Numeral.IsWellFormed.ofText?_text {numeral : Numeral} (wellFormed : numeral.IsWellFormed) :
    Number.ofText? numeral.text = some numeral.toNumber := by
  have missing : '_' ∉ numeral.text := fun member => absurd (wellFormed.isMark_of_mem_text _ member) (by decide)
  have trimmed : trimWhere isNumericBlank numeral.text = numeral.text :=
    trimWhere_of_forall fun c member => by simp [isNumericBlank, wellFormed.solid c member]
  have unsigned := wellFormed.decimal.unsigned ((numeral.exponent.map Exponent.text).getD [])
  have signed := Sign.scan_text_append numeral.sign unsigned
  rw [← text_eq] at signed
  have unnamed (negative : Bool) : Number.named?
      (numeral.decimal.text ++ (numeral.exponent.map Exponent.text).getD []) negative = none := by
    obtain ⟨c, rest, written⟩ := List.exists_cons_of_ne_nil wellFormed.decimal.text_ne_nil
    rw [written, List.cons_append]
    exact Number.named?_eq_none (wellFormed.decimal.mem_text (written ▸ List.mem_cons_self)) negative
  rw [Number.ofText?, trimmed, ungroup?_of_notMem missing]
  simp [signed, unnamed, scan?_text wellFormed]

/-- The number that a text is read as. -/
def Text.number (text : Text) : Number := (Number.ofText? text).getD 0

/-- A text that writes a number. -/
def IsNumberText (text : Text) : Prop := ∃ numeral : Numeral, numeral.IsWellFormed ∧ numeral.text = text

/-- A sign and digits on both sides of a point, or with no point, make a numeral. -/
theorem numeral_of_parts (negative : Bool) {decimal : Decimal} (present : decimal.whole ≠ [])
    (whole : ∀ c ∈ decimal.whole, c.isDigit = true) (fraction : ∀ c ∈ decimal.fraction.getD [], c.isDigit = true) :
    ∃ numeral : Numeral, numeral.IsWellFormed ∧ numeral.text = (if negative then ['-'] else []) ++ decimal.text ∧
      Sign.isMinus numeral.sign = negative ∧ numeral.decimal = decimal ∧ numeral.exponent = none := by
  refine ⟨⟨if negative then some Sign.minus else none, decimal, none⟩,
    ⟨⟨?_, ?_, List.append_ne_nil_of_left_ne_nil present _⟩, nofun⟩, ?_, ?_, rfl, rfl⟩
  · exact fun c member => isDigit_of_isDigit (whole c member)
  · exact fun c member => isDigit_of_isDigit (fraction c member)
  · cases negative <;> simp [Numeral.text, Sign.text, Sign.mark]
  · cases negative <;> rfl

theorem isNumberText_of_parts (negative : Bool) {decimal : Decimal} (present : decimal.whole ≠ [])
    (whole : ∀ c ∈ decimal.whole, c.isDigit = true) (fraction : ∀ c ∈ decimal.fraction.getD [], c.isDigit = true) :
    IsNumberText ((if negative then ['-'] else []) ++ decimal.text) := by
  obtain ⟨numeral, wellFormed, text, _⟩ := numeral_of_parts negative present whole fraction
  exact ⟨numeral, wellFormed, text⟩

theorem Text.isDigit_of_mem_ofNat {n : Nat} {c : Char} (member : c ∈ Text.ofNat n) : c.isDigit = true :=
  Nat.isDigit_of_mem_toDigits (by decide) (by decide) member

theorem Text.digitsValue_ofNat (n : Nat) : (Text.ofNat n).digitsValue = n := by
  have each : ∀ c ∈ "0123456789".toList, (digitValue? c).getD 0 = c.toNat - '0'.toNat :=
    forall_mem_of_all (by decide)
  have values : (Text.ofNat n).digitsValue = Nat.ofDigitChars 10 (Text.ofNat n) 0 := by
    rw [Nat.ofDigitChars_eq_foldl]
    refine List.foldl_ext _ _ _ fun value c member => ?_
    rw [each c (mem_digits (isDigit_of_mem_ofNat member))]
  exact values.trans Nat.ofDigitChars_ten_toDigits

theorem Text.digitsValue_zeros_append (count : Nat) (digits : Text) :
    Text.digitsValue (List.replicate count '0' ++ digits) = digits.digitsValue := by
  induction count with
  | zero => rfl
  | succ count ih => exact ih

/-- A count of hundredths, say, is written with a point before its last two digits. -/
theorem Text.exists_decimal_ofScaled (places value : Nat) : ∃ decimal : Decimal,
    decimal.text = ofScaled (places + 1) value ∧ decimal.whole ≠ [] ∧ (∀ c ∈ decimal.digits, c.isDigit = true) ∧
      decimal.digits.digitsValue = value ∧ decimal.places = places + 1 := by
  rw [ofScaled, if_neg places.succ_ne_zero]
  set digits := List.replicate (places + 1 + 1 - (Text.ofNat value).length) '0' ++ Text.ofNat value with padded
  have long : places + 1 < digits.length := by
    rw [padded, List.length_append, List.length_replicate]
    omega
  have whole : digits.take (digits.length - (places + 1)) ++ digits.drop (digits.length - (places + 1)) = digits :=
    List.take_append_drop ..
  refine ⟨⟨digits.take (digits.length - (places + 1)), some (digits.drop (digits.length - (places + 1)))⟩, rfl, ?_, ?_,
    ?_, ?_⟩
  · rw [Ne, List.take_eq_nil_iff, not_or]
    exact ⟨by omega, List.ne_nil_of_length_pos (by omega)⟩
  · rw [Decimal.digits, Option.getD_some, whole, padded, List.forall_mem_append]
    refine ⟨fun c zero => ?_, fun c => isDigit_of_mem_ofNat⟩
    rw [List.eq_of_mem_replicate zero]
    rfl
  · rw [Decimal.digits, Option.getD_some, whole, padded, digitsValue_zeros_append, digitsValue_ofNat]
  · rw [Decimal.places, Option.getD_some, List.length_drop]
    omega

namespace Floating

variable {format : BinaryFormat} {x : Floating format}

theorem fixed_of_isFinite (finite : x.isFinite = true) (places : Nat) : x.fixed places =
    (if x.isNegative then ['-'] else []) ++
      .ofScaled places (Rounding.nearestEven (x.magnitude * 10 ^ places)).toNat := by
  cases x <;> first | rfl | cases finite

/-- A finite number is written with its count of the last place, and read as that. -/
theorem exists_numeral_fixed (finite : x.isFinite = true) (places : Nat) : ∃ numeral : Numeral, numeral.IsWellFormed ∧
    numeral.text = x.fixed (places + 1) ∧ numeral.toNumber = Number.ofDecimal x.isNegative
      (Rounding.nearestEven (x.magnitude * 10 ^ (places + 1))).toNat (-(places + 1 : Nat)) := by
  rw [fixed_of_isFinite finite]
  generalize (Rounding.nearestEven (x.magnitude * 10 ^ (places + 1))).toNat = value
  obtain ⟨decimal, text, present, digits, count, length⟩ := Text.exists_decimal_ofScaled places value
  rw [Decimal.digits, List.forall_mem_append] at digits
  obtain ⟨numeral, wellFormed, written, sign, same, plain⟩ := numeral_of_parts x.isNegative present digits.1 digits.2
  refine ⟨numeral, wellFormed, by rw [written, text], ?_⟩
  rw [Numeral.toNumber, sign, plain, same, count, length, Int.zero_sub]

theorem fixed_isNumberText (finite : x.isFinite = true) (places : Nat) : IsNumberText (x.fixed (places + 1)) := by
  obtain ⟨numeral, wellFormed, text, _⟩ := exists_numeral_fixed finite places
  exact ⟨numeral, wellFormed, text⟩

/-- The number that is read from a text with a fixed count of places. -/
theorem number_fixed (finite : x.isFinite = true) (places : Nat) : (x.fixed (places + 1)).number =
    Number.ofDecimal x.isNegative (Rounding.nearestEven (x.magnitude * 10 ^ (places + 1))).toNat (-(places + 1 : Nat)) := by
  obtain ⟨numeral, wellFormed, text, value⟩ := exists_numeral_fixed finite places
  rw [number, ← text, wellFormed.ofText?_text, Option.getD_some, value]

end Floating

namespace PlacedDigits

theorem split_spec {placed : PlacedDigits} (digits : ∀ c ∈ placed.digits, c.isDigit = true) :
    placed.split.1 ≠ [] ∧ (∀ c ∈ placed.split.1, c.isDigit = true) ∧ ∀ c ∈ placed.split.2, c.isDigit = true := by
  have zeros {count : Nat} {c : Char} (zero : c ∈ List.replicate count '0') : c.isDigit = true := by
    rw [List.eq_of_mem_replicate zero]
    rfl
  rw [split]
  split
  · refine ⟨List.cons_ne_nil _ _, by simp, fun c member => ?_⟩
    rcases List.mem_append.mp member with zero | digit
    · exact zeros zero
    · exact digits c digit
  · rename_i positive
    refine ⟨?_, fun c member => ?_, fun c member => digits c (List.mem_of_mem_drop member)⟩
    · apply List.ne_nil_of_length_pos
      simp only [List.length_append, List.length_take, List.length_replicate]
      omega
    · rcases List.mem_append.mp member with digit | zero
      · exact digits c (List.mem_of_mem_take digit)
      · exact zeros zero

theorem isDigit_of_mem_ofScaled {written : ScaledDigits} {c : Char} (member : c ∈ (ofScaled written).digits) :
    c.isDigit = true := by
  apply @Text.isDigit_of_mem_ofNat written.digits
  exact (List.rdropWhile_prefix _ _).subset member

end PlacedDigits

namespace Floating

variable {format : BinaryFormat} {x : Floating format}

theorem positional_of_isFinite (finite : x.isFinite = true) : x.positional =
    (if x.isNegative then ['-'] else []) ++ Decimal.text ⟨(PlacedDigits.ofScaled x.shortest).split.1,
      if (PlacedDigits.ofScaled x.shortest).split.2.isEmpty then none
      else some (PlacedDigits.ofScaled x.shortest).split.2⟩ := by
  cases x with
  | finite negative significand exponent canonical =>
    simp only [positional, textWith, isNegative, Decimal.text]
    congr 2
    split <;> rfl
  | _ => cases finite

theorem positional_isNumberText (finite : x.isFinite = true) : IsNumberText x.positional := by
  obtain ⟨present, whole, fraction⟩ := PlacedDigits.split_spec fun _ => @PlacedDigits.isDigit_of_mem_ofScaled x.shortest _
  rw [positional_of_isFinite finite]
  refine isNumberText_of_parts x.isNegative present whole fun c member => ?_
  split at member
  · exact absurd member List.not_mem_nil
  · exact fraction c member

end Floating
end SkyRegion
