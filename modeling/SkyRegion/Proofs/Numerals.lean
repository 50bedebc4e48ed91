import SkyRegion.Number.Numeral
import SkyRegion.Proofs.Trimming

/-! The grammar of written numbers. A scan takes a number off the front of a text and leaves a rest that cannot go
on it; what it takes is well formed, and a well-formed number is taken whole before every such rest. -/

namespace SkyRegion

open Text

namespace Text

/-- What holds of each character of a text, seen by going through the text. -/
theorem forall_mem_of_all {text : Text} {property : Char → Prop} [DecidablePred property]
    (all : text.all (fun c => decide (property c)) = true) : ∀ c ∈ text, property c := by
  intro c member
  exact of_decide_eq_true (List.all_eq_true.mp all c member)

variable {isMark : Char → Bool}

/-- A run of characters of a class ends where another character, or none, follows. -/
theorem takeWhile_append_of_ends {front rest : Text} (all : ∀ c ∈ front, isMark c = true)
    (ends : ∀ c ∈ rest.head?, isMark c = false) :
    (front ++ rest).takeWhile isMark = front ∧ (front ++ rest).dropWhile isMark = rest := by
  rw [List.takeWhile_append_of_pos all, List.dropWhile_append_of_pos all]
  cases rest with
  | nil => exact ⟨List.append_nil _, rfl⟩
  | cons c rest =>
    have other : ¬isMark c = true := by simp [ends c rfl]
    exact ⟨by rw [List.takeWhile_cons_of_neg other, List.append_nil], List.dropWhile_cons_of_neg other⟩

/-- No digit of any script lies in a set of characters that has none of the ten codes from a zero on. -/
theorem inRanges_of_isDigit {ranges : List (Nat × Nat)}
    (apart : ∀ start ∈ zeroCodes, ∀ offset < 10, inRanges ranges (start + offset) = false) {c : Char}
    (digit : isDigit c = true) : inRanges ranges c.toNat = false := by
  obtain ⟨value, known⟩ := Option.isSome_iff_exists.mp digit
  obtain ⟨start, found, _⟩ := Option.map_eq_some_iff.mp known
  have within := List.find?_some found
  simp only [Bool.and_eq_true, decide_eq_true_eq] at within
  have covered := apart start (List.mem_of_find?_eq_some found) (c.toNat - start) (by omega)
  rwa [Nat.add_sub_cancel' within.1] at covered

theorem isBlank_of_isDigit {c : Char} (digit : isDigit c = true) : isBlank c = false :=
  inRanges_of_isDigit (by decide +kernel) digit

end Text

namespace Sign

theorem text_append_scan (text : Text) : Sign.text (scan text).1 ++ (scan text).2 = text := by
  rw [scan.eq_def]
  split <;> rfl

theorem scan_text_append (sign : Option Sign) {rest : Text} (unsigned : ∀ c ∈ rest.head?, c ≠ '+' ∧ c ≠ '-') :
    scan (text sign ++ rest) = (sign, rest) := by
  match sign with
  | some .plus => rfl
  | some .minus => rfl
  | none =>
    change scan rest = (none, rest)
    rw [scan.eq_def]
    split
    · exact absurd rfl (unsigned _ rfl).1
    · exact absurd rfl (unsigned _ rfl).2
    · rfl

theorem ne_mark_of_digit_or_point {c : Char} (plain : isDigit c = true ∨ c = '.') : c ≠ '+' ∧ c ≠ '-' := by
  constructor <;>
  · rintro rfl
    exact absurd plain (by decide)

/-- No sign comes before digits and points. -/
theorem unsigned_append {front : Text} (present : front ≠ []) (plain : ∀ c ∈ front, isDigit c = true ∨ c = '.')
    (rest : Text) : ∀ c ∈ (front ++ rest).head?, c ≠ '+' ∧ c ≠ '-' := by
  intro c first
  rw [List.head?_append_of_ne_nil _ present] at first
  exact ne_mark_of_digit_or_point (plain c (List.mem_of_head? first))

end Sign

namespace Decimal

structure IsWellFormed (decimal : Decimal) : Prop where
  whole : ∀ c ∈ decimal.whole, isDigit c = true
  fraction : ∀ c ∈ decimal.fraction.getD [], isDigit c = true
  present : decimal.digits ≠ []

instance (decimal : Decimal) : Decidable decimal.IsWellFormed :=
  decidable_of_iff (decimal.whole.all isDigit = true ∧ (decimal.fraction.getD []).all isDigit = true ∧ decimal.digits ≠ [])
    ⟨fun ⟨whole, fraction, present⟩ => ⟨List.all_eq_true.mp whole, List.all_eq_true.mp fraction, present⟩,
      fun ⟨whole, fraction, present⟩ => ⟨List.all_eq_true.mpr whole, List.all_eq_true.mpr fraction, present⟩⟩

/-- What follows does not go on the decimal. -/
def Ends (decimal : Decimal) (rest : Text) : Prop :=
  ∀ c ∈ rest.head?, isDigit c = false ∧ (decimal.fraction = none → c ≠ '.')

variable {decimal : Decimal} {text rest : Text}

theorem isDigit_point : isDigit '.' = false := by decide

theorem scan?_append (wellFormed : decimal.IsWellFormed) (ends : decimal.Ends rest) :
    scan? (decimal.text ++ rest) = some (decimal, rest) := by
  obtain ⟨digits, places⟩ := decimal
  obtain ⟨whole, fraction, present⟩ := wellFormed
  cases places with
  | none =>
    obtain ⟨front, back⟩ := takeWhile_append_of_ends whole fun c first => (ends c first).1
    have written : digits ≠ [] := by simpa [Decimal.digits] using present
    rw [scan?, Decimal.text, List.append_nil, front, back]
    cases rest with
    | nil => simp [written]
    | cons c rest =>
      have other : c ≠ '.' := (ends c rfl).2 rfl
      split
      · exact absurd (List.cons.inj ‹_›).1 other
      · simp [written]
  | some places =>
    have stop : ∀ c ∈ ('.' :: (places ++ rest)).head?, isDigit c = false := by
      rintro c ⟨⟩
      exact isDigit_point
    obtain ⟨front, back⟩ := takeWhile_append_of_ends whole stop
    obtain ⟨front', back'⟩ := takeWhile_append_of_ends fraction fun c first => (ends c first).1
    have written : ¬(digits = [] ∧ places = []) := by simpa [Decimal.digits] using present
    rw [scan?, Decimal.text, List.append_assoc, List.cons_append, front, back]
    simp only [Option.getD_some] at front' back'
    simp only [front', back', Bool.and_eq_true, List.isEmpty_iff, if_neg written]

theorem scan?_sound (scanned : scan? text = some (decimal, rest)) :
    decimal.IsWellFormed ∧ decimal.Ends rest ∧ text = decimal.text ++ rest := by
  have whole : ∀ c ∈ text.takeWhile isDigit, isDigit c = true := fun c member => List.mem_takeWhile_imp member
  have stop := @eq_false_of_mem_head?_dropWhile isDigit text
  have split := (List.takeWhile_append_dropWhile (p := isDigit) (l := text)).symm
  rw [scan?] at scanned
  revert scanned
  generalize text.takeWhile isDigit = digits at whole split ⊢
  generalize text.dropWhile isDigit = after at stop split ⊢
  subst split
  dsimp only
  split
  · rename_i after
    split
    · nofun
    · rename_i present
      rintro ⟨⟩
      have fraction : ∀ c ∈ after.takeWhile isDigit, isDigit c = true := fun c member => List.mem_takeWhile_imp member
      refine ⟨⟨whole, fraction, by simpa [Decimal.digits] using present⟩, fun c first => ?_, ?_⟩
      · exact ⟨eq_false_of_mem_head?_dropWhile after c first, nofun⟩
      · simp [Decimal.text]
  · rename_i other
    split
    · nofun
    · rename_i present
      rintro ⟨⟩
      refine ⟨⟨whole, nofun, by simpa [Decimal.digits] using present⟩, fun c first => ⟨stop c first, fun _ => ?_⟩, ?_⟩
      · rintro rfl
        obtain ⟨rest, rfl⟩ := List.head?_eq_some_iff.mp first
        exact other rest rfl
      · simp [Decimal.text]

namespace IsWellFormed

variable (wellFormed : decimal.IsWellFormed)
include wellFormed

theorem mem_text {c : Char} (member : c ∈ decimal.text) : isDigit c = true ∨ c = '.' := by
  rw [Decimal.text, List.mem_append] at member
  have fraction := wellFormed.fraction
  rcases member with member | member
  · exact .inl (wellFormed.whole c member)
  · cases written : decimal.fraction with
    | none => simp [written] at member
    | some places =>
      simp only [written, List.mem_cons, Option.getD_some] at member fraction
      exact member.symm.imp_left (fraction c)

theorem text_ne_nil : decimal.text ≠ [] := by
  intro empty
  have digits := wellFormed.present
  rw [Decimal.text, List.append_eq_nil_iff] at empty
  cases written : decimal.fraction <;> simp_all [Decimal.digits]

theorem unsigned (rest : Text) : ∀ c ∈ (decimal.text ++ rest).head?, c ≠ '+' ∧ c ≠ '-' :=
  Sign.unsigned_append wellFormed.text_ne_nil (fun _ member => wellFormed.mem_text member) rest

end IsWellFormed

end Decimal

namespace Exponent

structure IsWellFormed (exponent : Exponent) : Prop where
  mark : exponent.mark = 'e' ∨ exponent.mark = 'E'
  digits : ∀ c ∈ exponent.digits, isDigit c = true
  present : exponent.digits ≠ []

instance (exponent : Exponent) : Decidable exponent.IsWellFormed :=
  decidable_of_iff ((exponent.mark = 'e' ∨ exponent.mark = 'E') ∧ exponent.digits.all isDigit = true ∧ exponent.digits ≠ [])
    ⟨fun ⟨mark, digits, present⟩ => ⟨mark, List.all_eq_true.mp digits, present⟩,
      fun ⟨mark, digits, present⟩ => ⟨mark, List.all_eq_true.mpr digits, present⟩⟩

variable {exponent : Exponent} {text rest : Text}

theorem scan_append (wellFormed : exponent.IsWellFormed) (ends : ∀ c ∈ rest.head?, isDigit c = false) :
    scan (exponent.text ++ rest) = (some exponent, rest) := by
  obtain ⟨mark, sign, digits⟩ := exponent
  obtain ⟨known, all, present⟩ := wellFormed
  simp only at known all present
  have unsigned := Sign.unsigned_append present (fun c member => .inl (all c member)) rest
  obtain ⟨front, back⟩ := takeWhile_append_of_ends all ends
  have sign : Sign.scan (Sign.text sign ++ digits ++ rest) = (sign, digits ++ rest) := by
    rw [List.append_assoc]
    exact Sign.scan_text_append sign unsigned
  have written : (mark = 'e' || mark = 'E') = true := by simpa using known
  rw [Exponent.text, List.cons_append, List.cons_append, scan, sign]
  simp [front, back, written, present]

theorem scan_of_ne (other : ∀ c ∈ text.head?, c ≠ 'e' ∧ c ≠ 'E') : scan text = (none, text) := by
  cases text with
  | nil => rfl
  | cons c rest => simp [scan, other c rfl]

theorem scan_sound : (∀ exponent ∈ (scan text).1, exponent.IsWellFormed) ∧
    text = ((scan text).1.map Exponent.text).getD [] ++ (scan text).2 := by
  cases text with
  | nil => exact ⟨nofun, rfl⟩
  | cons mark rest =>
    have split := Sign.text_append_scan rest
    rw [scan]
    generalize Sign.scan rest = scanned at split
    obtain ⟨sign, after⟩ := scanned
    dsimp only at split ⊢
    split
    · rename_i known
      simp only [Bool.and_eq_true, Bool.or_eq_true, decide_eq_true_eq, Bool.not_eq_true', List.isEmpty_eq_false_iff]
        at known
      refine ⟨?_, ?_⟩
      · rintro _ ⟨⟩
        exact ⟨known.1, fun c member => List.mem_takeWhile_imp member, known.2⟩
      · simp [Exponent.text, ← split]
    · exact ⟨nofun, rfl⟩

theorem IsWellFormed.mem_text (wellFormed : exponent.IsWellFormed) {c : Char} (member : c ∈ exponent.text) :
    isDigit c = true ∨ c ∈ "+-eE".toList := by
  rw [Exponent.text, List.cons_append, List.mem_cons, List.mem_append] at member
  rcases member with rfl | member | member
  · rcases wellFormed.mark with same | same <;> simp [same]
  · match sign : exponent.sign with
    | none => simp [sign, Sign.text] at member
    | some .plus => simp_all [Sign.text, Sign.mark]
    | some .minus => simp_all [Sign.text, Sign.mark]
  · exact .inl (wellFormed.digits c member)

end Exponent

namespace Numeral

structure IsWellFormed (numeral : Numeral) : Prop where
  decimal : numeral.decimal.IsWellFormed
  exponent : ∀ exponent ∈ numeral.exponent, exponent.IsWellFormed

instance (numeral : Numeral) : Decidable numeral.IsWellFormed :=
  decidable_of_iff (numeral.decimal.IsWellFormed ∧ ∀ exponent ∈ numeral.exponent, exponent.IsWellFormed)
    ⟨fun ⟨decimal, exponent⟩ => ⟨decimal, exponent⟩, fun wellFormed => ⟨wellFormed.decimal, wellFormed.exponent⟩⟩

/-- What follows does not go on the numeral. -/
def Ends (numeral : Numeral) (rest : Text) : Prop :=
  ∀ c ∈ rest.head?, isDigit c = false ∧
    (numeral.exponent = none → c ≠ 'e' ∧ c ≠ 'E' ∧ (numeral.decimal.fraction = none → c ≠ '.'))

def isMark (c : Char) : Bool := isDigit c || "+-.eE".toList.contains c

variable {numeral : Numeral} {text rest : Text}

theorem text_eq (numeral : Numeral) : numeral.text =
    Sign.text numeral.sign ++ (numeral.decimal.text ++ (numeral.exponent.map Exponent.text).getD []) := by
  rw [Numeral.text, List.append_assoc]
  cases numeral.exponent <;> rfl

theorem scan?_append (wellFormed : numeral.IsWellFormed) (ends : numeral.Ends rest) :
    scan? (numeral.text ++ rest) = some (numeral, rest) := by
  obtain ⟨sign, decimal, exponent⟩ := numeral
  obtain ⟨decimalFormed, exponentFormed⟩ := wellFormed
  simp only at decimalFormed exponentFormed
  have split : Numeral.text ⟨sign, decimal, exponent⟩ ++ rest =
      Sign.text sign ++ (decimal.text ++ ((exponent.map Exponent.text).getD [] ++ rest)) := by
    simp [text_eq]
  rw [split, scan?, Sign.scan_text_append sign (decimalFormed.unsigned _)]
  cases exponent with
  | none =>
    have stops : decimal.Ends rest := fun c first => ⟨(ends c first).1, ((ends c first).2 rfl).2.2⟩
    have bare := Exponent.scan_of_ne fun c first => ⟨((ends c first).2 rfl).1, ((ends c first).2 rfl).2.1⟩
    simp [Decimal.scan?_append decimalFormed stops, bare]
  | some exponent =>
    have formed := exponentFormed exponent rfl
    have stops : decimal.Ends (exponent.text ++ rest) := by
      rintro c ⟨⟩
      rcases formed.mark with same | same <;> rw [same] <;> exact ⟨by decide, fun _ => by decide⟩
    have scanned := Exponent.scan_append formed fun c first => (ends c first).1
    simp [Decimal.scan?_append decimalFormed stops, scanned]

theorem scan?_text (wellFormed : numeral.IsWellFormed) : scan? numeral.text = some (numeral, []) := by
  have scanned := @scan?_append numeral [] wellFormed nofun
  rwa [List.append_nil] at scanned

theorem eq_of_text_eq {numeral' : Numeral} (wellFormed : numeral.IsWellFormed) (wellFormed' : numeral'.IsWellFormed)
    (same : numeral.text = numeral'.text) : numeral = numeral' := by
  have scanned := scan?_text wellFormed
  rw [same, scan?_text wellFormed', Option.some.injEq, Prod.mk.injEq] at scanned
  exact scanned.1.symm

theorem scan?_sound (scanned : scan? text = some (numeral, rest)) :
    numeral.IsWellFormed ∧ text = numeral.text ++ rest := by
  have signed := Sign.text_append_scan text
  rw [scan?] at scanned
  generalize Sign.scan text = found at signed scanned
  obtain ⟨sign, unsigned⟩ := found
  simp only [Option.bind_eq_bind, Option.bind_eq_some_iff, Prod.exists] at scanned
  obtain ⟨decimal, after, read, scanned⟩ := scanned
  obtain ⟨decimalFormed, _, rfl⟩ := Decimal.scan?_sound read
  obtain ⟨exponentFormed, split⟩ := @Exponent.scan_sound after
  cases scanned
  refine ⟨⟨decimalFormed, exponentFormed⟩, ?_⟩
  rw [text_eq, ← signed, List.append_assoc, List.append_assoc, ← split]

theorem isMark_of_mem_sign {c : Char} {sign : Option Sign} (member : c ∈ Sign.text sign) : isMark c = true := by
  match sign with
  | none => exact absurd member List.not_mem_nil
  | some .plus => simp_all [Sign.text, Sign.mark, isMark]
  | some .minus => simp_all [Sign.text, Sign.mark, isMark]

theorem isMark_of_digit_or_point {c : Char} (plain : isDigit c = true ∨ c = '.') : isMark c = true := by
  rcases plain with digit | rfl
  · simp [isMark, digit]
  · decide

theorem isBlank_of_isMark {c : Char} (mark : isMark c = true) : isBlank c = false := by
  rw [isMark, Bool.or_eq_true, List.contains_iff_mem] at mark
  rcases mark with digit | other
  · exact isBlank_of_isDigit digit
  · exact (forall_mem_of_all (by decide) : ∀ c ∈ "+-.eE".toList, isBlank c = false) c other

namespace IsWellFormed

variable (wellFormed : numeral.IsWellFormed)
include wellFormed

theorem isMark_of_mem_text : ∀ c ∈ numeral.text, isMark c = true := by
  intro c member
  rw [text_eq, List.mem_append, List.mem_append] at member
  rcases member with member | member | member
  · exact isMark_of_mem_sign member
  · exact isMark_of_digit_or_point (wellFormed.decimal.mem_text member)
  · cases written : numeral.exponent with
    | none => simp [written] at member
    | some exponent =>
      simp only [written, Option.map_some, Option.getD_some] at member
      rcases (wellFormed.exponent exponent written).mem_text member with digit | other
      · simp [isMark, digit]
      · simp only [isMark, Bool.or_eq_true, List.contains_iff_mem]
        exact .inr ((forall_mem_of_all (by decide) : ∀ c ∈ "+-eE".toList, c ∈ "+-.eE".toList) c other)

theorem solid : ∀ c ∈ numeral.text, isBlank c = false :=
  fun c member => isBlank_of_isMark (wellFormed.isMark_of_mem_text c member)

theorem text_ne_nil : numeral.text ≠ [] := by
  rw [text_eq]
  exact List.append_ne_nil_of_right_ne_nil _ (List.append_ne_nil_of_left_ne_nil wellFormed.decimal.text_ne_nil _)

theorem dropWhile_isBlank_append (rest : Text) :
    (numeral.text ++ rest).dropWhile isBlank = numeral.text ++ rest := by
  obtain ⟨c, further, written⟩ := List.exists_cons_of_ne_nil wellFormed.text_ne_nil
  have solid := wellFormed.solid c (written ▸ List.mem_cons_self)
  rw [written, List.cons_append, List.dropWhile_cons_of_neg (by simp [solid])]

end IsWellFormed

end Numeral
end SkyRegion
