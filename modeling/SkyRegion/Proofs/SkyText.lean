import SkyRegion.Proofs.Rereading

/-! Definitions written on the sky. Positions are numbers of degrees and lengths numbers of arcseconds with a mark;
whatever the units of the quantities were, the definition is a keyword with such tokens. -/

namespace SkyRegion

open Text

/-- A region that is given by quantities and an angle. -/
structure Addition where
  kind : RegionKind
  quantities : List Quantity
  angle : Number

namespace Addition

def positions (addition : Addition) : List Quantity :=
  if addition.kind = .polygon then addition.quantities else addition.quantities.take 2

def lengths (addition : Addition) : List Quantity :=
  if addition.kind = .polygon then [] else addition.quantities.drop 2

end Addition

namespace Quantity

/-- The unit measures what the quantity does. -/
def HasValueIn (unit : Unit) (quantity : Quantity) : Prop := (quantity.valueIn? unit).isSome = true

instance (unit : Unit) (quantity : Quantity) : Decidable (quantity.HasValueIn unit) := by
  unfold HasValueIn
  infer_instance

/-- In a unit the quantity has a value that is finite. -/
def IsFiniteIn (unit : Unit) (quantity : Quantity) : Prop :=
  ∃ value, quantity.valueIn? unit = some value ∧ value.isFinite = true

instance (unit : Unit) (quantity : Quantity) : Decidable (quantity.IsFiniteIn unit) :=
  decidable_of_iff ((quantity.valueIn? unit).any (·.isFinite) = true) (by simp [IsFiniteIn, Option.any_eq_true])

/-- The value in a unit, if there is one. -/
def numberIn (unit : Unit) (quantity : Quantity) : Number := (quantity.valueIn? unit).getD 0

/-- The number that is read where the quantity was written with a count of places. -/
def IsPrintedAs (places : Nat) (unit : Unit) (quantity : Quantity) (read : Number) : Prop :=
  ∃ exact value, quantity.valueIn? unit = some exact ∧ Number.ofText? (exact.fixed places) = some value ∧
    value.same read = true

def degrees (quantity : Quantity) : Text := (quantity.numberIn .degree).fixed 6

def arcseconds (quantity : Quantity) : Text := (quantity.numberIn .arcsecond).fixed 4

namespace HasValueIn

variable {quantity : Quantity}

theorem valueIn?_eq {unit : Unit} (measured : quantity.HasValueIn unit) :
    quantity.valueIn? unit = some (quantity.numberIn unit) := by
  obtain ⟨value, known⟩ := Option.isSome_iff_exists.mp measured
  rw [numberIn, known, Option.getD_some]

/-- Quantities of one unit whose numbers are equal are equal in every unit. -/
theorem numberIn_same {unit : Unit} {other : Quantity} (measured : quantity.HasValueIn unit)
    (units : quantity.unit = other.unit) (number : (quantity.numberIn unit).isNan = false)
    (equal : quantity.value.same other.value = true) :
    (quantity.numberIn unit).same (other.numberIn unit) = true := by
  rw [HasValueIn, valueIn?] at measured
  rw [numberIn, valueIn?] at number ⊢
  rw [numberIn, valueIn?, ← units]
  split at measured
  · simpa [‹quantity.unit = unit›] using equal
  · obtain ⟨factor, found⟩ := Option.isSome_iff_exists.mp ((Option.isSome_map ..).symm.trans measured)
    simp only [‹quantity.unit ≠ unit›, if_false, found, Option.map_some, Option.getD_some] at number ⊢
    exact Number.mul_same equal number

theorem position_eq (measured : quantity.HasValueIn .degree) :
    QuantityStyle.position .sky quantity = .ok quantity.degrees := by
  rw [QuantityStyle.position, QuantityStyle.valueIn, measured.valueIn?_eq]
  rfl

theorem length_eq (measured : quantity.HasValueIn .arcsecond) :
    QuantityStyle.length .sky quantity = .ok (quantity.arcseconds ++ ['"']) := by
  rw [QuantityStyle.length, QuantityStyle.valueIn, measured.valueIn?_eq]
  rfl

end HasValueIn

namespace IsFiniteIn

variable {quantity : Quantity}

theorem hasValueIn {unit : Unit} (finite : quantity.IsFiniteIn unit) : quantity.HasValueIn unit := by
  obtain ⟨value, known, _⟩ := finite
  rw [HasValueIn, known, Option.isSome_some]

theorem valueIn?_eq {unit : Unit} (finite : quantity.IsFiniteIn unit) :
    quantity.valueIn? unit = some (quantity.numberIn unit) := finite.hasValueIn.valueIn?_eq

theorem isFinite {unit : Unit} (finite : quantity.IsFiniteIn unit) : (quantity.numberIn unit).isFinite = true := by
  obtain ⟨value, known, finite⟩ := finite
  rwa [numberIn, known, Option.getD_some]

/-- Equal quantities of one unit are printed as equal numbers. -/
theorem isPrintedAs_of_same {unit : Unit} {other : Quantity} (finite : quantity.IsFiniteIn unit)
    (finite' : other.IsFiniteIn unit) (equal : (other.numberIn unit).same (quantity.numberIn unit) = true) (places : Nat) :
    quantity.IsPrintedAs (places + 1) unit ((other.numberIn unit).fixed (places + 1)).number := by
  obtain ⟨value, read, same⟩ := Floating.exists_ofText?_of_same finite'.isFinite finite.isFinite equal places
  exact ⟨_, value, finite.valueIn?_eq, read, same⟩

theorem isPrintedAs {unit : Unit} (finite : quantity.IsFiniteIn unit) (places : Nat) :
    quantity.IsPrintedAs (places + 1) unit ((quantity.numberIn unit).fixed (places + 1)).number :=
  finite.isPrintedAs_of_same finite ((Floating.same_iff finite.isFinite finite.isFinite).mpr rfl) places

theorem numberIn_same {unit : Unit} {other : Quantity} (finite : quantity.IsFiniteIn unit)
    (units : quantity.unit = other.unit) (equal : quantity.value.same other.value = true) :
    (quantity.numberIn unit).same (other.numberIn unit) = true :=
  finite.hasValueIn.numberIn_same units (Floating.isNan_of_isFinite finite.isFinite) equal

theorem degrees_isNumberText (finite : quantity.IsFiniteIn .degree) : IsNumberText quantity.degrees :=
  Floating.fixed_isNumberText finite.isFinite 5

theorem arcseconds_isNumberText (finite : quantity.IsFiniteIn .arcsecond) : IsNumberText quantity.arcseconds :=
  Floating.fixed_isNumberText finite.isFinite 3

end IsFiniteIn

end Quantity

theorem IsNumberText.isToken_marked {text : Text} (written : IsNumberText text) : IsToken (text ++ ['"']) where
  present := by simp
  marks := by
    simp only [List.forall_mem_append, List.forall_mem_singleton]
    exact ⟨written.isToken.marks, rfl⟩

namespace Addition

/-- What an addition is written with: a keyword and its tokens. -/
inductive WrittenAs (addition : Addition) : ShapeKeyword → List Text → Prop where
  | point {x y} (kind : addition.kind = .point) (quantities : addition.quantities = [x, y]) :
    WrittenAs addition .point [x.degrees, y.degrees]
  | box {x y width height} (kind : addition.kind = .rectangle) (quantities : addition.quantities = [x, y, width, height]) :
    WrittenAs addition .box
      [x.degrees, y.degrees, width.arcseconds ++ ['"'], height.arcseconds ++ ['"'], addition.angle.angleText]
  | circle {x y width height} (kind : addition.kind = .ellipse) (quantities : addition.quantities = [x, y, width, height])
    (equal : width.value.same height.value = true) :
    WrittenAs addition .circle [x.degrees, y.degrees, width.arcseconds ++ ['"']]
  | ellipse {x y width height} (kind : addition.kind = .ellipse) (quantities : addition.quantities = [x, y, width, height])
    (unequal : width.value.same height.value = false) :
    WrittenAs addition .ellipse
      [x.degrees, y.degrees, width.arcseconds ++ ['"'], height.arcseconds ++ ['"'], addition.angle.angleText]
  | polygon {vertices : List (Quantity × Quantity)} (kind : addition.kind = .polygon)
    (quantities : addition.quantities = vertices.flatMap fun vertex => [vertex.1, vertex.2]) (enough : 3 ≤ vertices.length) :
    WrittenAs addition .polygon (vertices.flatMap fun vertex => [vertex.1.degrees, vertex.2.degrees])

/-- Quantities that can be written on the sky. -/
structure IsWritable (addition : Addition) : Prop where
  fits : Writer.fitsQuantities addition.kind addition.quantities.length = true
  positions : ∀ quantity ∈ addition.positions, quantity.IsFiniteIn .degree
  lengths : ∀ quantity ∈ addition.lengths, quantity.IsFiniteIn .arcsecond
  radii : addition.kind = .ellipse → ∀ first ∈ addition.lengths, ∀ second ∈ addition.lengths, first.unit = second.unit
  angle : (addition.angle.convert : Floating .single).isFinite = true

instance (addition : Addition) : Decidable addition.IsWritable :=
  decidable_of_iff (Writer.fitsQuantities addition.kind addition.quantities.length = true ∧
      (∀ quantity ∈ addition.positions, quantity.IsFiniteIn .degree) ∧
        (∀ quantity ∈ addition.lengths, quantity.IsFiniteIn .arcsecond) ∧
          (addition.kind = .ellipse →
            ∀ first ∈ addition.lengths, ∀ second ∈ addition.lengths, first.unit = second.unit) ∧
            (addition.angle.convert : Floating .single).isFinite = true)
    ⟨fun ⟨fits, positions, lengths, radii, angle⟩ => ⟨fits, positions, lengths, radii, angle⟩,
      fun writable => ⟨writable.fits, writable.positions, writable.lengths, writable.radii, writable.angle⟩⟩

variable {addition : Addition} {keyword : ShapeKeyword} {arguments : List Text}

theorem exists_pairs : ∀ {quantities : List Quantity}, quantities.length % 2 = 0 →
    ∃ vertices : List (Quantity × Quantity), quantities = vertices.flatMap fun vertex => [vertex.1, vertex.2]
  | [], _ => ⟨[], rfl⟩
  | [_], odd => absurd odd (by simp)
  | x :: y :: rest, even => by
    rw [List.length_cons, List.length_cons] at even
    obtain ⟨vertices, rfl⟩ := @exists_pairs rest (by omega)
    exact ⟨(x, y) :: vertices, rfl⟩

theorem writtenAs_of_fits (fits : Writer.fitsQuantities addition.kind addition.quantities.length = true) :
    ∃ keyword arguments, addition.WrittenAs keyword arguments := by
  cases kind : addition.kind with
  | point =>
    rw [kind, Writer.fitsQuantities, decide_eq_true_eq, List.length_eq_two] at fits
    obtain ⟨x, y, quantities⟩ := fits
    exact ⟨_, _, .point kind quantities⟩
  | rectangle =>
    rw [kind, Writer.fitsQuantities, decide_eq_true_eq, List.length_eq_four] at fits
    · obtain ⟨x, y, width, height, quantities⟩ := fits
      exact ⟨_, _, .box kind quantities⟩
    · nofun
    · nofun
  | ellipse =>
    rw [kind, Writer.fitsQuantities, decide_eq_true_eq, List.length_eq_four] at fits
    · obtain ⟨x, y, width, height, quantities⟩ := fits
      cases equal : width.value.same height.value with
      | true => exact ⟨_, _, .circle kind quantities equal⟩
      | false => exact ⟨_, _, .ellipse kind quantities equal⟩
    · nofun
    · nofun
  | polygon =>
    simp only [kind, Writer.fitsQuantities, Bool.and_eq_true, decide_eq_true_eq] at fits
    obtain ⟨vertices, quantities⟩ := exists_pairs fits.2
    have count : addition.quantities.length = 2 * vertices.length := by
      simp [quantities, List.length_flatMap, Nat.mul_comm]
    exact ⟨_, _, .polygon kind quantities (by omega)⟩

namespace IsWritable

variable {x y width height : Quantity} {rest : List Quantity} (writable : addition.IsWritable)
include writable

theorem position (other : addition.kind ≠ .polygon) (quantities : addition.quantities = x :: y :: rest) :
    x.IsFiniteIn .degree ∧ y.IsFiniteIn .degree := by
  have positions := writable.positions
  rw [Addition.positions, if_neg other, quantities] at positions
  exact ⟨positions x (by simp), positions y (by simp)⟩

theorem centered (other : addition.kind ≠ .polygon) (quantities : addition.quantities = [x, y, width, height]) :
    x.IsFiniteIn .degree ∧ y.IsFiniteIn .degree ∧ width.IsFiniteIn .arcsecond ∧ height.IsFiniteIn .arcsecond := by
  obtain ⟨x, y⟩ := writable.position other quantities
  have lengths := writable.lengths
  rw [Addition.lengths, if_neg other, quantities] at lengths
  exact ⟨x, y, lengths width (by simp), lengths height (by simp)⟩

theorem vertex {vertices : List (Quantity × Quantity)} (kind : addition.kind = .polygon)
    (quantities : addition.quantities = vertices.flatMap fun vertex => [vertex.1, vertex.2]) :
    ∀ vertex ∈ vertices, vertex.1.IsFiniteIn .degree ∧ vertex.2.IsFiniteIn .degree := by
  intro vertex listed
  have positions := writable.positions
  rw [Addition.positions, if_pos kind, quantities] at positions
  exact ⟨positions _ (List.mem_flatMap.mpr ⟨vertex, listed, by simp⟩),
    positions _ (List.mem_flatMap.mpr ⟨vertex, listed, by simp⟩)⟩

end IsWritable

end Addition

namespace QuantityStyle

variable {write : Quantity → Except FormatFault Text} {quantities : List Quantity} {texts : List Text}

theorem mapM_of_forall₂ (each : List.Forall₂ (fun quantity text => write quantity = .ok text) quantities texts) :
    quantities.mapM write = .ok texts := by
  induction each with
  | nil => rfl
  | cons first _ ih =>
    rw [List.mapM_cons, first, ih]
    rfl

/-- What stands before the quantities that are left over is written. -/
theorem parts_of_forall₂ (each : List.Forall₂ (fun quantity text => write quantity = .ok text) quantities texts)
    (rest : List Quantity) : parts quantities.length write (quantities ++ rest) = .ok texts := by
  rw [parts, List.take_left, mapM_of_forall₂ each]
  exact if_neg (by simp [each.length_eq])

/-- A position and as many lengths as are expected; further ones are left out. -/
theorem centered_sky {x y : Quantity} (xMeasured : x.HasValueIn .degree) (yMeasured : y.HasValueIn .degree)
    {lengths : List Quantity} (each : ∀ length ∈ lengths, length.HasValueIn .arcsecond) (rest : List Quantity) :
    centered .sky lengths.length (x :: y :: (lengths ++ rest)) =
      .ok (x.degrees :: y.degrees :: lengths.map (·.arcseconds ++ ['"'])) := by
  have position := parts_of_forall₂ (.cons xMeasured.position_eq (.cons yMeasured.position_eq .nil)) (lengths ++ rest)
  have extent : parts lengths.length (length .sky) (lengths ++ rest) = .ok (lengths.map (·.arcseconds ++ ['"'])) := by
    refine parts_of_forall₂ ?_ rest
    rw [List.forall₂_map_right_iff, List.forall₂_same]
    exact fun length listed => (each length listed).length_eq
  change parts 2 _ (x :: y :: (lengths ++ rest)) = _ at position
  rw [centered, if_neg nofun, position, List.drop_succ_cons, List.drop_succ_cons, List.drop_zero, extent]
  rfl

/-- Radii that are equal as numbers make a circle, and every other ellipse keeps its angle. -/
theorem ellipse_sky {x y width height : Quantity} (xMeasured : x.HasValueIn .degree) (yMeasured : y.HasValueIn .degree)
    (widthMeasured : width.HasValueIn .arcsecond) (heightMeasured : height.HasValueIn .arcsecond) (angle : Number) :
    ellipse .sky [x, y, width, height] angle = .ok (if width.value.same height.value
      then Region.call "circle" [x.degrees, y.degrees, width.arcseconds ++ ['"']]
      else Region.call "ellipse"
        [x.degrees, y.degrees, width.arcseconds ++ ['"'], height.arcseconds ++ ['"'], angle.angleText]) := by
  have one := centered_sky xMeasured yMeasured (List.forall_mem_singleton.mpr widthMeasured) [height]
  have both := centered_sky xMeasured yMeasured
    (List.forall_mem_cons.mpr ⟨widthMeasured, List.forall_mem_singleton.mpr heightMeasured⟩) []
  simp only [ellipse, List.getElem?_cons_succ, List.getElem?_cons_zero]
  split
  · exact congrArg (· >>= _) one
  · exact congrArg (· >>= _) both

theorem position_vertices {vertices : List (Quantity × Quantity)}
    (finite : ∀ vertex ∈ vertices, vertex.1.IsFiniteIn .degree ∧ vertex.2.IsFiniteIn .degree) :
    List.Forall₂ (fun quantity text => position .sky quantity = .ok text)
      (vertices.flatMap fun vertex => [vertex.1, vertex.2])
      (vertices.flatMap fun vertex => [vertex.1.degrees, vertex.2.degrees]) := by
  induction vertices with
  | nil => exact .nil
  | cons vertex rest ih =>
    rw [List.forall_mem_cons] at finite
    exact .cons finite.1.1.hasValueIn.position_eq (.cons finite.1.2.hasValueIn.position_eq (ih finite.2))

end QuantityStyle

theorem isInnerMark_of_mem_intercalate {tokens : List Text} (each : ∀ token ∈ tokens, IsToken token) {c : Char}
    (member : c ∈ [','].intercalate tokens) : isInnerMark c = true := by
  obtain rfl | ⟨token, listed, member⟩ := mem_intercalate member
  · decide
  · exact (each token listed).mem_inner member

/-- Tokens with commas between them are one part of a call. -/
theorem Region.isWritten_call_joined {keyword : ShapeKeyword} (known : keyword ∈ writtenKeywords) {arguments : List Text}
    (tokens : ∀ argument ∈ arguments, IsToken argument) {name : String} (named : name.toList = keyword.name) :
    IsWritten (call name [[','].intercalate arguments]) keyword arguments := by
  have separates : Definition.isSeparator ',' = true := by decide
  have inner := Definition.tokensOf_intercalate separates fun argument listed => (tokens argument listed).tokensOf
  have written := @isWritten_call keyword known [[','].intercalate arguments] (by simpa [inner] using tokens)
    (by simpa using fun c => isInnerMark_of_mem_intercalate tokens) name named
  simpa [inner] using written

namespace Addition

variable {addition : Addition} {keyword : ShapeKeyword} {arguments : List Text}

theorem IsWritable.angle_isNumberText (writable : addition.IsWritable) : IsNumberText addition.angle.angleText :=
  Floating.positional_isNumberText writable.angle

namespace WrittenAs

variable (written : addition.WrittenAs keyword arguments) (writable : addition.IsWritable)
include written writable

theorem isToken : ∀ argument ∈ arguments, IsToken argument := by
  have angle := writable.angle_isNumberText.isToken
  cases written with
  | point kind quantities =>
    obtain ⟨x, y⟩ := writable.position (by simp [kind]) quantities
    simp only [List.forall_mem_cons]
    exact ⟨x.degrees_isNumberText.isToken, y.degrees_isNumberText.isToken, List.forall_mem_nil _⟩
  | circle kind quantities =>
    obtain ⟨x, y, width, _⟩ := writable.centered (by simp [kind]) quantities
    simp only [List.forall_mem_cons]
    exact ⟨x.degrees_isNumberText.isToken, y.degrees_isNumberText.isToken,
      width.arcseconds_isNumberText.isToken_marked, List.forall_mem_nil _⟩
  | box kind quantities | ellipse kind quantities =>
    obtain ⟨x, y, width, height⟩ := writable.centered (by simp [kind]) quantities
    simp only [List.forall_mem_cons]
    exact ⟨x.degrees_isNumberText.isToken, y.degrees_isNumberText.isToken,
      width.arcseconds_isNumberText.isToken_marked, height.arcseconds_isNumberText.isToken_marked, angle,
      List.forall_mem_nil _⟩
  | polygon kind quantities =>
    have finite := writable.vertex kind quantities
    simp only [List.mem_flatMap, List.mem_cons, List.not_mem_nil, or_false]
    rintro token ⟨vertex, listed, rfl | rfl⟩
    · exact (finite vertex listed).1.degrees_isNumberText.isToken
    · exact (finite vertex listed).2.degrees_isNumberText.isToken

/-- An addition is written as a definition of its keyword and tokens. -/
theorem isWritten : ∃ definition,
    QuantityStyle.definition .sky addition.kind addition.quantities addition.angle = .ok definition ∧
      IsWritten definition keyword arguments := by
  have tokens := written.isToken writable
  cases written with
  | point kind quantities =>
    obtain ⟨x, y⟩ := writable.position (by simp [kind]) quantities
    have parts := QuantityStyle.parts_of_forall₂ (.cons x.hasValueIn.position_eq (.cons y.hasValueIn.position_eq .nil)) []
    refine ⟨_, ?_, Region.isWritten_call_of_tokens (by decide) tokens rfl⟩
    rw [QuantityStyle.definition.eq_def, kind, quantities]
    exact congrArg (Except.map _) parts
  | box kind quantities =>
    obtain ⟨x, y, width, height⟩ := writable.centered (by simp [kind]) quantities
    have centered := QuantityStyle.centered_sky x.hasValueIn y.hasValueIn
      (List.forall_mem_cons.mpr ⟨width.hasValueIn, List.forall_mem_singleton.mpr height.hasValueIn⟩) []
    refine ⟨_, ?_, Region.isWritten_call_of_tokens (by decide) tokens rfl⟩
    rw [QuantityStyle.definition.eq_def, kind, quantities]
    exact congrArg (· >>= _) centered
  | circle kind quantities equal =>
    obtain ⟨x, y, width, height⟩ := writable.centered (by simp [kind]) quantities
    have drawn := QuantityStyle.ellipse_sky x.hasValueIn y.hasValueIn width.hasValueIn height.hasValueIn addition.angle
    rw [if_pos equal] at drawn
    refine ⟨_, ?_, Region.isWritten_call_of_tokens (by decide) tokens rfl⟩
    rw [QuantityStyle.definition.eq_def, kind, quantities]
    exact drawn
  | ellipse kind quantities unequal =>
    obtain ⟨x, y, width, height⟩ := writable.centered (by simp [kind]) quantities
    have drawn := QuantityStyle.ellipse_sky x.hasValueIn y.hasValueIn width.hasValueIn height.hasValueIn addition.angle
    rw [if_neg (ne_true_of_eq_false unequal)] at drawn
    refine ⟨_, ?_, Region.isWritten_call_of_tokens (by decide) tokens rfl⟩
    rw [QuantityStyle.definition.eq_def, kind, quantities]
    exact drawn
  | polygon kind quantities =>
    have texts := QuantityStyle.mapM_of_forall₂ (QuantityStyle.position_vertices (writable.vertex kind quantities))
    refine ⟨_, ?_, Region.isWritten_call_joined (by decide) tokens rfl⟩
    rw [QuantityStyle.definition.eq_def, kind, quantities]
    simp only [QuantityStyle.polygon, texts]
    simp [Region.call, Region.separated]

end WrittenAs

end Addition
end SkyRegion
