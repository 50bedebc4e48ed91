import SkyRegion.Proofs.RegionDocument
import SkyRegion.Proofs.Rounding

/-! What can be wrong with the structured value of a region. Callers are told of most of it as documented; what escapes them
is a point without two coordinates and a number beyond its range, if everything that is read before is in order. -/

namespace SkyRegion.Region

open DocumentFault

/-- No double is near enough to the integer. -/
def IsTooLarge (value : Int) : Prop := 2 ^ 1024 - 2 ^ 970 ≤ value.natAbs

inductive IsNumeric : Document → Prop
  | bool {value : Bool} : IsNumeric (.bool value)
  | integer {value : Int} (near : ¬IsTooLarge value) : IsNumeric (.integer value)
  | number {value : Number} : IsNumeric (.number value)
  | text {text : Text} {value : Number} (reads : Number.ofText? text = some value) : IsNumeric (.text text)

/-- What stands at an index of a point: an item of a list, or a character of a text as a text of its own. -/
inductive Holds (index : Nat) : Document → Document → Prop
  | item {items : List Document} {item : Document} (found : items[index]? = some item) : Holds index (.list items) item
  | character {text : Text} {c : Char} (found : text[index]? = some c) : Holds index (.text text) (.text [c])

/-- What can be searched for an index in vain. -/
inductive IsMissing (index : Nat) : Document → Family → Prop
  | item {items : List Document} (short : items.length ≤ index) : IsMissing index (.list items) .index
  | character {text : Text} (short : text.length ≤ index) : IsMissing index (.text text) .index
  | key {fields : List (Text × Document)} : IsMissing index (.object fields) .key

def HasCoordinate (point : Document) (index : Nat) : Prop := ∃ item, Holds index point item ∧ IsNumeric item

def IsPlaced (point : Document) : Prop := HasCoordinate point 0 ∧ HasCoordinate point 1

inductive CoordinateEscapes (point : Document) (index : Nat) : Family → Prop
  | missing {family : Family} (missing : IsMissing index point family) : CoordinateEscapes point index family
  | large {value : Int} (holds : Holds index point (.integer value)) (large : IsTooLarge value) :
      CoordinateEscapes point index .range

/-- The second coordinate of a point is looked for when the first has been read. -/
inductive PointEscapes (point : Document) (family : Family) : Prop
  | first (escapes : CoordinateEscapes point 0 family)
  | second (first : HasCoordinate point 0) (escapes : CoordinateEscapes point 1 family)

/-- What a field is if it is given. -/
def FieldIs (fields : List (Text × Document)) (name : String) (proper : Document → Prop) : Prop :=
  ∀ value, Document.field? fields name.toList = some value → proper value

/-- The fields that are read before the rotation are in order: the points are a list of points, and the kind is given and
known. -/
structure IsBegun (fields : List (Text × Document)) : Prop where
  points : FieldIs fields "control_points" fun value => ∃ items, value = .list items ∧ ∀ point ∈ items, IsPlaced point
  kind : ∃ value, Document.field? fields "kind".toList = some value ∧ ∃ kind : RegionKind, value.toText? = some kind.name

/-- Inputs that cannot be read as a region, without their callers being told as documented. -/
inductive Escapes (fields : List (Text × Document)) : Family → Prop
  | point {before after : List Document} {point : Document} {family : Family}
      (given : Document.field? fields "control_points".toList = some (.list (before ++ point :: after)))
      (earlier : ∀ point ∈ before, IsPlaced point) (escapes : PointEscapes point family) : Escapes fields family
  | rotation {value : Int} (begun : IsBegun fields)
      (given : Document.field? fields "rotation".toList = some (.integer value)) (large : IsTooLarge value) :
      Escapes fields .range
  | file {negative : Bool} (begun : IsBegun fields) (rotation : FieldIs fields "rotation" IsNumeric)
      (name : FieldIs fields "name" (·.isWritable = true))
      (given : Document.field? fields "file_id".toList = some (.number (.infinite negative))) :
      Escapes fields .range

section reads

variable {value : Document} {fields : List (Text × Document)}

theorem isTooLarge_iff {value : Int} : IsTooLarge value ↔ (Floating.ofInt? value : Option Number) = none :=
  (Floating.ofInt?_eq_none_iff_natAbs value).symm

theorem exists_readNumber_iff : (∃ number, readNumber value = .ok number) ↔ IsNumeric value := by
  constructor
  · intro ⟨number, read⟩
    cases value with
    | bool value => exact .bool
    | number value => exact .number
    | integer value =>
      obtain ⟨_, near, _⟩ := elim_eq_ok_iff.mp read
      exact .integer fun large => Option.some_ne_none _ (near.symm.trans (isTooLarge_iff.mp large))
    | text text =>
      obtain ⟨_, reads, _⟩ := elim_eq_ok_iff.mp read
      exact .text reads
    | null | list items | object fields => cases read
  · intro numeric
    cases numeric with
    | bool | number => exact ⟨_, rfl⟩
    | integer near =>
      obtain ⟨number, near⟩ := Option.ne_none_iff_exists'.mp (mt isTooLarge_iff.mpr near)
      exact ⟨number, elim_eq_ok_iff.mpr ⟨number, near, rfl⟩⟩
    | text reads => exact ⟨_, elim_eq_ok_iff.mpr ⟨_, reads, rfl⟩⟩

theorem coordinate_eq_ok_iff {point item : Document} {index : Nat} :
    coordinate point index = .ok item ↔ Holds index point item := by
  constructor
  · intro got
    cases point with
    | list items =>
      obtain ⟨_, found, same⟩ := elim_eq_ok_iff.mp got
      cases same
      exact .item found
    | text text =>
      obtain ⟨_, found, same⟩ := elim_eq_ok_iff.mp got
      cases same
      exact .character found
    | null | bool value | integer value | number value | object fields => cases got
  · intro holds
    cases holds with
    | item found => exact elim_eq_ok_iff.mpr ⟨_, found, rfl⟩
    | character found => exact elim_eq_ok_iff.mpr ⟨_, found, rfl⟩

theorem exists_readCoordinate_iff {point : Document} {index : Nat} :
    (∃ number, readCoordinate point index = .ok number) ↔ HasCoordinate point index := by
  simp only [readCoordinate, bind_eq_ok_iff, coordinate_eq_ok_iff]
  rw [exists_comm]
  simp only [exists_and_left, exists_readNumber_iff]
  rfl

theorem exists_readPoint_iff {point : Document} : (∃ value, readPoint point = .ok value) ↔ IsPlaced point := by
  rw [IsPlaced, ← exists_readCoordinate_iff, ← exists_readCoordinate_iff]
  constructor
  · intro ⟨value, read⟩
    simp only [readPoint, bind_eq_ok_iff] at read
    obtain ⟨x, first, y, second, _⟩ := read
    exact ⟨⟨x, first⟩, y, second⟩
  · intro ⟨⟨x, first⟩, y, second⟩
    exact ⟨⟨x, y⟩, by rw [readPoint, first, second]; rfl⟩

theorem exists_readPoints_iff : (∃ points, readPoints value = .ok points) ↔
    ∃ items, value = .list items ∧ ∀ point ∈ items, IsPlaced point := by
  cases value with
  | list items => simp only [readPoints, exists_mapM_eq_ok_iff, exists_readPoint_iff, Document.list.injEq, exists_eq_left']
  | null | bool value | integer value | number value | text value | object fields => exact iff_of_false nofun nofun

theorem readText_eq_ok_iff {text : Text} : readText value = .ok text ↔ value.toText? = some text := by
  rw [readText, elim_eq_ok_iff]
  simp

theorem exists_readText_iff : (∃ text, readText value = .ok text) ↔ value.isWritable = true := by
  simp only [readText_eq_ok_iff, Document.toText?]
  split <;> simp [*]

theorem readKind_eq_ok_iff {name : Text} {kind : RegionKind} : readKind name = .ok kind ↔ name = kind.name := by
  constructor
  · intro known
    obtain ⟨_, found, same⟩ := elim_eq_ok_iff.mp known
    cases same
    simpa [eq_comm] using List.find?_some found
  · intro same
    rw [same, readKind_name]

theorem exists_readField_iff {name : String} {missing : α} {read : Document → Except DocumentFault α} :
    (∃ result, readField fields name missing read = .ok result) ↔
      FieldIs fields name fun value => ∃ result, read value = .ok result := by
  rw [readField, FieldIs]
  cases Document.field? fields name.toList with
  | none => simp
  | some value => simp

theorem failsWith_readField {bad : DocumentFault → Prop} {name : String} {missing : α}
    {read : Document → Except DocumentFault α} : FailsWith bad (readField fields name missing read) ↔
      ∃ value, Document.field? fields name.toList = some value ∧ FailsWith bad (read value) := by
  rw [readField]
  cases Document.field? fields name.toList with
  | none => simp
  | some value => simp

theorem isBegun_iff : IsBegun fields ↔ (∃ points, readField fields "control_points" [] readPoints = .ok points) ∧
    ∃ text, readField fields "kind" [] readText = .ok text ∧ ∃ kind, readKind text = .ok kind := by
  simp only [exists_readField_iff, exists_readPoints_iff, readKind_eq_ok_iff]
  constructor
  · intro begun
    obtain ⟨value, given, kind, written⟩ := begun.kind
    refine ⟨begun.points, kind.name, ?_, kind, rfl⟩
    rw [readField, given]
    exact readText_eq_ok_iff.mpr written
  · intro ⟨points, _, read, kind, same⟩
    cases same
    refine ⟨points, ?_⟩
    rw [readField] at read
    cases given : Document.field? fields "kind".toList with
    | none =>
      -- a kind that is not given is read as an empty name, which no kind has
      rw [given] at read
      cases kind <;> cases read
    | some value =>
      rw [given] at read
      exact ⟨value, rfl, kind, readText_eq_ok_iff.mp read⟩

end reads

section escapes

variable {family : Family} (undocumented : family.isDocumented = false)
include undocumented

theorem ne_of_isDocumented {told : Family} (documented : told.isDocumented = true) : told ≠ family := by
  intro same
  cases documented.symm.trans (same ▸ undocumented)

theorem readNumber_escapes_iff {value : Document} : FailsWith (·.family = family) (readNumber value) ↔
    family = .range ∧ ∃ integer, value = .integer integer ∧ IsTooLarge integer := by
  have typed : Family.type ≠ family := ne_of_isDocumented undocumented rfl
  have valued : Family.value ≠ family := ne_of_isDocumented undocumented rfl
  cases value with
  | integer value =>
    rw [readNumber, failsWith_elim_iff fun _ => id, ← isTooLarge_iff]
    simp [DocumentFault.family, eq_comm, and_comm]
  | text value =>
    rw [readNumber, failsWith_elim_iff fun _ => id]
    simp [DocumentFault.family, valued]
  | bool value | number value => simp [readNumber]
  | null | list items | object fields => simp [readNumber, DocumentFault.family, typed]

theorem readInteger_escapes_iff {value : Document} : FailsWith (·.family = family) (readInteger value) ↔
    family = .range ∧ ∃ negative, value = .number (.infinite negative) := by
  have typed : Family.type ≠ family := ne_of_isDocumented undocumented rfl
  have valued : Family.value ≠ family := ne_of_isDocumented undocumented rfl
  cases value with
  | number value => cases value <;> simp [readInteger, DocumentFault.family, valued.symm, eq_comm]
  | text value =>
    simp only [readInteger, reduceCtorEq, exists_false, and_false, iff_false]
    rcases Text.readInt value with (_ | digits) | integer
    · exact valued
    · exact valued
    · exact id
  | bool value | integer value => simp [readInteger]
  | null | list items | object fields => simp [readInteger, DocumentFault.family, typed]

theorem not_readText_escapes {value : Document} : ¬FailsWith (·.family = family) (readText value) := by
  rw [readText, failsWith_elim_iff fun _ => id]
  exact fun failed => ne_of_isDocumented undocumented rfl failed.2

theorem not_readKind_escapes {name : Text} : ¬FailsWith (·.family = family) (readKind name) := by
  rw [readKind, failsWith_elim_iff fun _ => id]
  exact fun failed => ne_of_isDocumented undocumented rfl failed.2

theorem not_check_escapes {region : Region} :
    ¬FailsWith (·.family = family) ((check region).mapError DocumentFault.count) := by
  rw [failsWith_mapError]
  cases check region with
  | ok region => exact id
  | error fault => exact ne_of_isDocumented undocumented rfl

theorem coordinate_escapes_iff {point : Document} {index : Nat} :
    FailsWith (·.family = family) (coordinate point index) ↔ IsMissing index point family := by
  constructor
  · intro failed
    cases point with
    | list items =>
      obtain ⟨short, same⟩ := (failsWith_elim_iff fun _ => id).mp failed
      exact same ▸ .item (List.getElem?_eq_none_iff.mp short)
    | text text =>
      obtain ⟨short, same⟩ := (failsWith_elim_iff fun _ => id).mp failed
      exact same ▸ .character (List.getElem?_eq_none_iff.mp short)
    | object fields => exact failed ▸ .key
    | null | bool value | integer value | number value => exact (ne_of_isDocumented undocumented rfl failed).elim
  · intro missing
    cases missing with
    | item short => exact (failsWith_elim_iff fun _ => id).mpr ⟨List.getElem?_eq_none short, rfl⟩
    | character short => exact (failsWith_elim_iff fun _ => id).mpr ⟨List.getElem?_eq_none short, rfl⟩
    | key => exact rfl

theorem readCoordinate_escapes_iff {point : Document} {index : Nat} :
    FailsWith (·.family = family) (readCoordinate point index) ↔ CoordinateEscapes point index family := by
  simp only [readCoordinate, failsWith_bind, coordinate_escapes_iff undocumented, coordinate_eq_ok_iff,
    readNumber_escapes_iff undocumented]
  constructor
  · intro escapes
    obtain missing | ⟨_, holds, rfl, value, rfl, large⟩ := escapes
    · exact .missing missing
    · exact .large holds large
  · intro escapes
    cases escapes with
    | missing missing => exact .inl missing
    | large holds large => exact .inr ⟨_, holds, rfl, _, rfl, large⟩

theorem readPoint_escapes_iff {point : Document} :
    FailsWith (·.family = family) (readPoint point) ↔ PointEscapes point family := by
  simp only [readPoint, failsWith_bind, readCoordinate_escapes_iff undocumented, failsWith_pure, and_false, exists_false,
    or_false, exists_and_right, exists_readCoordinate_iff]
  constructor
  · intro escapes
    obtain escapes | ⟨first, escapes⟩ := escapes
    · exact .first escapes
    · exact .second first escapes
  · intro escapes
    cases escapes with
    | first escapes => exact .inl escapes
    | second first escapes => exact .inr ⟨first, escapes⟩

theorem readPoints_escapes_iff {value : Document} : FailsWith (·.family = family) (readPoints value) ↔
    ∃ before point after, value = .list (before ++ point :: after) ∧ (∀ point ∈ before, IsPlaced point) ∧
      PointEscapes point family := by
  cases value with
  | list items =>
    simp only [readPoints, failsWith_mapM, readPoint_escapes_iff undocumented, exists_readPoint_iff, Document.list.injEq]
  | null | bool value | integer value | number value | text value | object fields =>
    exact iff_of_false (ne_of_isDocumented undocumented rfl) (by simp)

/-- The readers are gone through in their order: each is reached if those before it have read their fields. -/
theorem ofDocument_escapes_iff (fields : List (Text × Document)) :
    FailsWith (·.family = family) (ofDocument fields) ↔ Escapes fields family := by
  simp only [ofDocument, failsWith_bind, failsWith_readField, readPoints_escapes_iff undocumented,
    not_readText_escapes undocumented, not_readKind_escapes undocumented, readNumber_escapes_iff undocumented,
    readInteger_escapes_iff undocumented, not_check_escapes undocumented, and_false, exists_false, or_false, false_or]
  constructor
  · intro escapes
    obtain ⟨_, given, before, point, after, rfl, earlier, escapes⟩ | ⟨points, read, text, written, kind, known, later⟩ := escapes
    · exact .point given earlier escapes
    · have begun := isBegun_iff.mpr ⟨⟨points, read⟩, text, written, kind, known⟩
      obtain ⟨_, given, rfl, value, rfl, large⟩ | ⟨rotation, turned, name, named, _, given, rfl, negative, rfl⟩ := later
      · exact .rotation begun given large
      · have rotation := exists_readField_iff.mp ⟨rotation, turned⟩
        have name := exists_readField_iff.mp ⟨name, named⟩
        simp only [exists_readNumber_iff, exists_readText_iff] at rotation name
        exact .file begun rotation name given
  · intro escapes
    cases escapes with
    | point given earlier escapes => exact .inl ⟨_, given, _, _, _, rfl, earlier, escapes⟩
    | rotation begun given large =>
      obtain ⟨⟨points, read⟩, text, written, kind, known⟩ := isBegun_iff.mp begun
      exact .inr ⟨points, read, text, written, kind, known, .inl ⟨_, given, rfl, _, rfl, large⟩⟩
    | file begun rotation name given =>
      obtain ⟨⟨points, read⟩, text, written, kind, known⟩ := isBegun_iff.mp begun
      obtain ⟨rotation, turned⟩ : ∃ rotation, readField fields "rotation" 0 readNumber = .ok rotation :=
        exists_readField_iff.mpr fun value given => exists_readNumber_iff.mpr (rotation value given)
      obtain ⟨name, named⟩ : ∃ name, readField fields "name" [] readText = .ok name :=
        exists_readField_iff.mpr fun value given => exists_readText_iff.mpr (name value given)
      exact .inr ⟨points, read, text, written, kind, known, .inr ⟨rotation, turned, name, named, _, given, rfl, _, rfl⟩⟩

end escapes

theorem CoordinateEscapes.isDocumented_eq_false {point : Document} {index : Nat} {family : Family}
    (escapes : CoordinateEscapes point index family) : family.isDocumented = false := by
  cases escapes with
  | missing missing => cases missing <;> rfl
  | large => rfl

theorem Escapes.isDocumented_eq_false {fields : List (Text × Document)} {family : Family} (escapes : Escapes fields family) :
    family.isDocumented = false := by
  cases escapes with
  | point _ _ escapes =>
    cases escapes with
    | first escapes => exact escapes.isDocumented_eq_false
    | second _ escapes => exact escapes.isDocumented_eq_false
  | rotation => rfl
  | file => rfl

/-- A region whose points fit its kind, or a fault that callers are told of. -/
def EndsAsDocumented : Except DocumentFault Region → Prop
  | .ok region => region.kind.fits region.points.length = true
  | .error fault => fault.family.isDocumented = true

instance : (result : Except DocumentFault Region) → Decidable (EndsAsDocumented result)
  | .ok region => inferInstanceAs (Decidable (region.kind.fits region.points.length = true))
  | .error fault => inferInstanceAs (Decidable (fault.family.isDocumented = true))

theorem ofDocument_endsAsDocumented {fields : List (Text × Document)} : EndsAsDocumented (ofDocument fields) ↔
    ∀ family : Family, family.isDocumented = false → ¬FailsWith (·.family = family) (ofDocument fields) := by
  cases read : ofDocument fields with
  | ok region => exact iff_of_true (fits_of_ofDocument read) fun _ _ => id
  | error fault =>
    constructor
    · intro documented _ undocumented
      exact ne_of_isDocumented undocumented documented
    · intro told
      cases family : fault.family.isDocumented with
      | true => exact family
      | false => exact absurd rfl (told fault.family family)

/-- Reading ends as documented on every input but those that escape, and these end in the fault that they escape by. -/
theorem ofDocument_endsAsDocumented_iff (fields : List (Text × Document)) :
    (EndsAsDocumented (ofDocument fields) ↔ ∀ family, ¬Escapes fields family) ∧
      ∀ family, Escapes fields family ↔
        family.isDocumented = false ∧ FailsWith (·.family = family) (ofDocument fields) := by
  have each (family : Family) : Escapes fields family ↔
      family.isDocumented = false ∧ FailsWith (·.family = family) (ofDocument fields) := by
    constructor
    · intro escapes
      have undocumented := escapes.isDocumented_eq_false
      exact ⟨undocumented, (ofDocument_escapes_iff undocumented fields).mpr escapes⟩
    · intro ⟨undocumented, failed⟩
      exact (ofDocument_escapes_iff undocumented fields).mp failed
  refine ⟨?_, each⟩
  rw [ofDocument_endsAsDocumented]
  simp only [each, not_and]

/-- A point that lacks its second coordinate is asked for it all the same. -/
theorem ofDocument_of_single_coordinate :
    let fields := [("kind".toList, Document.text "point".toList), ("control_points".toList, .list [.list [.integer 1]])]
    FailsWith (·.family = .index) (ofDocument fields) ∧ ¬EndsAsDocumented (ofDocument fields) := by
  decide +kernel

end SkyRegion.Region
