import SkyRegion.Proofs.AngleText
import SkyRegion.Proofs.Trimming
import SkyRegion.Token

/-! Tokens that are a number, or a number and the letter of a unit. Every well-formed number is read from them,
in the unit of the place or of the letter. -/

namespace SkyRegion

open Text

theorem mem_of_lookup [BEq α] [LawfulBEq α] {entries : List (α × β)} {key : α} {value : β}
    (found : entries.lookup key = some value) : (key, value) ∈ entries := by
  obtain ⟨before, after, table, _⟩ := List.lookup_eq_some_iff.mp found
  exact table ▸ List.mem_append_right _ List.mem_cons_self

theorem Text.contains_lineFeed_eq_false {text : Text} (solid : ∀ c ∈ text, isBlank c = false) :
    text.contains '\n' = false := by
  rw [List.contains_eq_mem, decide_eq_false_iff_not]
  exact fun member => absurd (solid _ member) (by decide)

namespace Numeral

variable {numeral : Numeral} {rest : Text}

/-- An angle in three parts shows a digit or a point after the number that it begins with. -/
theorem not_angle (wellFormed : numeral.IsWellFormed) (ends : numeral.Ends rest)
    (wordy : ∀ c ∈ rest, isDigit c = false ∧ c ≠ '.') :
    Sexagesimal.ofText? (numeral.text ++ rest) = none ∧ DottedAngle.ofText? (numeral.text ++ rest) = none := by
  have scanned := scan?_append wellFormed ends
  constructor
  · by_contra present
    obtain ⟨angle, reads⟩ := Option.ne_none_iff_exists'.mp present
    obtain ⟨formed, written⟩ := Sexagesimal.ofText?_sound reads
    rw [written, Sexagesimal.scan?_text formed, Option.some.injEq, Prod.mk.injEq] at scanned
    obtain ⟨c, further, second⟩ := List.exists_cons_of_ne_nil formed.second.text_ne_nil
    have member : c ∈ angle.second.text := second ▸ List.mem_cons_self
    have shown := wordy c (scanned.2 ▸ List.mem_cons_of_mem _ (List.mem_append_left _ member))
    rcases formed.second.mem_text member with digit | point
    · exact absurd digit (by simp [shown.1])
    · exact shown.2 point
  · by_contra present
    obtain ⟨angle, reads⟩ := Option.ne_none_iff_exists'.mp present
    obtain ⟨formed, written⟩ := DottedAngle.ofText?_sound reads
    rw [written, DottedAngle.scan?_text formed, Option.some.injEq, Prod.mk.injEq] at scanned
    exact (wordy '.' (scanned.2 ▸ List.mem_cons_self)).2 rfl

end Numeral

namespace Quantity

variable [UnitLibrary] {numeral : Numeral} {rest : Text}

theorem read_numeral_append (wellFormed : numeral.IsWellFormed) (ends : numeral.Ends rest)
    (wordy : ∀ c ∈ rest, isDigit c = false ∧ c ≠ '.') (solid : ∀ c ∈ rest, isBlank c = false) :
    read (numeral.text ++ rest) =
      if rest = [] then .ok (some ⟨numeral.toNumber, .one⟩)
      else do return (← Unit.read rest).map (⟨numeral.toNumber, ·⟩) := by
  have trimmed : (numeral.text ++ rest).trim = numeral.text ++ rest :=
    trimWhere_of_forall (List.forall_mem_append.mpr ⟨wellFormed.solid, solid⟩)
  obtain ⟨sexagesimal, dotted⟩ := Numeral.not_angle wellFormed ends wordy
  have kept : rest.trim = rest := trimWhere_of_forall solid
  simp only [read, trimmed, sexagesimal, dotted, readNumberAndUnit, Numeral.scan?_append wellFormed ends, kept,
    contains_lineFeed_eq_false solid, Bool.false_eq_true, if_false, List.isEmpty_iff]

theorem read_numeral (wellFormed : numeral.IsWellFormed) :
    read numeral.text = .ok (some ⟨numeral.toNumber, .one⟩) := by
  have reads := @read_numeral_append _ numeral [] wellFormed nofun nofun nofun
  rwa [List.append_nil, if_pos rfl] at reads

end Quantity

namespace Token

variable {numeral : Numeral} {token rest : Text}

theorem afterNumeral?_append (wellFormed : numeral.IsWellFormed) (ends : numeral.Ends rest) :
    afterNumeral? (numeral.text ++ rest) = some rest := by
  rw [afterNumeral?, wellFormed.dropWhile_isBlank_append, Numeral.scan?_append wellFormed ends]
  rfl

theorem afterNumeral?_sound (solid : ∀ c ∈ token, isBlank c = false) (found : afterNumeral? token = some rest) :
    ∃ numeral : Numeral, numeral.IsWellFormed ∧ token = numeral.text ++ rest := by
  have front : token.dropWhile isBlank = token :=
    List.dropWhile_eq_self_iff.mpr fun nonempty => by simp [solid _ (List.getElem_mem nonempty)]
  rw [afterNumeral?, front, Option.map_eq_some_iff] at found
  obtain ⟨⟨numeral, _⟩, scanned, rfl⟩ := found
  exact ⟨numeral, Numeral.scan?_sound scanned⟩

theorem dotted_of_notMem (missing : ':' ∉ token) : dotted token = token := by
  refine (List.map_congr_left fun c member => ?_).trans (List.map_id _)
  have other : c ≠ ':' := by
    rintro rfl
    exact missing member
  exact if_neg other

theorem checked_of_notMem {shape text : Text} (named : nameUnit shape token = .ok text) (missing : ':' ∉ text)
    (latitude : Bool) : checked shape latitude token = .ok text := by
  rw [checked, named]
  cases latitude with
  | true => exact congrArg Except.ok (dotted_of_notMem missing)
  | false => rfl

/-- Units by the letters that stand for them in a token. -/
def letterUnits : List (Char × Unit) :=
  [('d', .degree), ('r', .radian), ('p', .pixel), ('i', .pixel), ('"', .arcsecond), ('\'', .arcminute)]

theorem letterUnits_isDivider : ∀ entry ∈ letterUnits, SexagesimalForm.IsDivider entry.1 ∧ entry.2 ≠ .one := by
  decide +kernel

theorem isSome_lookup_letterUnits (letter : Char) :
    (letterUnits.lookup letter).isSome = (unitLetters.lookup letter).isSome := by
  simp only [letterUnits, unitLetters, List.lookup_cons]
  repeat' split
  all_goals rfl

theorem isDivider_letter {letter : Char} {unit : Unit} (known : letterUnits.lookup letter = some unit) :
    SexagesimalForm.IsDivider letter :=
  (letterUnits_isDivider _ (mem_of_lookup known)).1

/-- A unit name is spelled without digits, points, colons and blanks, and begins with no mark of an exponent. -/
theorem unitLetters_spelling : ∀ entry ∈ unitLetters, SexagesimalForm.IsDivider entry.1 ∧ entry.2 ≠ [] ∧
    (entry.2.head? ≠ some 'e' ∧ entry.2.head? ≠ some 'E') ∧
      ∀ c ∈ entry.2, isDigit c = false ∧ c ≠ '.' ∧ c ≠ ':' ∧ isBlank c = false := by
  have each : ∀ entry ∈ unitLetters, SexagesimalForm.IsDivider entry.1 ∧ entry.2 ≠ [] ∧
      (entry.2.head? ≠ some 'e' ∧ entry.2.head? ≠ some 'E') ∧
      entry.2.all (fun c => decide (isDigit c = false ∧ c ≠ '.' ∧ c ≠ ':' ∧ isBlank c = false)) = true := by decide +kernel
  exact fun entry listed => (each entry listed).imp_right (.imp_right (.imp_right forall_mem_of_all))

section

variable [UnitLibrary]

theorem quantity_eq (shape : Text) (place : Unit) (latitude : Bool) (token : Text) :
    quantity shape place latitude token =
      match checked shape latitude token with
      | .error complaint => .error (.complaint complaint)
      | .ok text =>
        match Quantity.read text with
        | .error fault => .error (.interruption (.reading fault))
        | .ok none => .error (.complaint (.notQuantity shape text))
        | .ok (some quantity) => .ok (if quantity.unit = .one then { quantity with unit := place } else quantity) := by
  rw [quantity]
  cases checked shape latitude token with
  | error complaint => rfl
  | ok text =>
    generalize reading : Quantity.read text = result
    rcases result with fault | _ | quantity <;> simp [Except.mapError, bind, Except.bind, reading] <;> rfl

theorem quantity_of_read {shape text : Text} {latitude : Bool} {quantity : Quantity}
    (named : checked shape latitude token = .ok text) (read : Quantity.read text = .ok (some quantity)) (place : Unit) :
    Token.quantity shape place latitude token =
      .ok (if quantity.unit = .one then { quantity with unit := place } else quantity) := by
  rw [quantity_eq, named]
  simp only [read]

/-- A bare number is given the unit of its place. -/
theorem quantity_numeral (wellFormed : numeral.IsWellFormed) (shape : Text) (place : Unit) (latitude : Bool) :
    quantity shape place latitude numeral.text = .ok ⟨numeral.toNumber, place⟩ := by
  have bare : afterNumeral? numeral.text = some [] := by
    have found := @afterNumeral?_append numeral [] wellFormed nofun
    rwa [List.append_nil] at found
  have named : nameUnit shape numeral.text = .ok numeral.text := by rw [nameUnit, bare]
  have missing : ':' ∉ numeral.text := fun member => absurd (wellFormed.isMark_of_mem_text _ member) (by decide)
  exact quantity_of_read (checked_of_notMem named missing latitude) (Quantity.read_numeral wellFormed) place

/-- A number before a letter has the unit that the name of the letter is read as. -/
theorem quantity_named (wellFormed : numeral.IsWellFormed) {letter : Char} {name : Text} {unit : Unit}
    (spelled : unitLetters.lookup letter = some name) (measured : Unit.read name = .ok (some unit))
    (proper : unit ≠ .one) (shape : Text) (place : Unit) (latitude : Bool) :
    quantity shape place latitude (numeral.text ++ [letter]) = .ok ⟨numeral.toNumber, unit⟩ := by
  obtain ⟨divider, present, first, each⟩ := unitLetters_spelling _ (mem_of_lookup spelled)
  have ends : numeral.Ends [letter] := Numeral.ends_of_isDivider (by rintro c ⟨⟩; exact divider)
  have ends' : numeral.Ends name := fun c head =>
    have shown := each c (List.mem_of_head? head)
    ⟨shown.1, fun _ => ⟨fun same => first.1 (same ▸ head), fun same => first.2 (same ▸ head), fun _ => shown.2.1⟩⟩
  have named : nameUnit shape (numeral.text ++ [letter]) = .ok (numeral.text ++ name) := by
    rw [nameUnit, afterNumeral?_append wellFormed ends]
    simp [spelled]
  have missing : ':' ∉ numeral.text ++ name := by
    rw [List.mem_append]
    rintro (member | member)
    · exact absurd (wellFormed.isMark_of_mem_text _ member) (by decide)
    · exact (each _ member).2.2.1 rfl
  have read := Quantity.read_numeral_append wellFormed ends' (fun c member => ⟨(each c member).1, (each c member).2.1⟩)
    fun c member => (each c member).2.2.2
  rw [if_neg present, measured] at read
  rw [quantity_of_read (checked_of_notMem named missing latitude) read, if_neg proper]

variable [LawfulUnitLibrary]

theorem lookup_letterUnits (letter : Char) :
    (unitLetters.lookup letter).map Unit.read = (letterUnits.lookup letter).map fun unit => .ok (some unit) := by
  have degree : Unit.read "deg".toList = .ok (some .degree) := LawfulUnitLibrary.unit_deg
  have radian : Unit.read "rad".toList = .ok (some .radian) := LawfulUnitLibrary.unit_rad
  simp only [letterUnits, unitLetters, List.lookup_cons]
  repeat' split
  all_goals first | rfl | exact congrArg some degree | exact congrArg some radian

theorem quantity_lettered (wellFormed : numeral.IsWellFormed) {letter : Char} {unit : Unit}
    (known : letterUnits.lookup letter = some unit) (shape : Text) (place : Unit) (latitude : Bool) :
    quantity shape place latitude (numeral.text ++ [letter]) = .ok ⟨numeral.toNumber, unit⟩ := by
  have named := lookup_letterUnits letter
  rw [known, Option.map_some, Option.map_eq_some_iff] at named
  obtain ⟨name, spelled, measured⟩ := named
  exact quantity_named wellFormed spelled measured (letterUnits_isDivider _ (mem_of_lookup known)).2 shape place latitude

end

end Token
end SkyRegion
