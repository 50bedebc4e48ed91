import Mathlib.Data.List.Forall2
import SkyRegion.Proofs.NumberText
import SkyRegion.Shape.Reading

/-! Shapes read from tokens that are known to be read. The unit of a bare number is decided by its place: a position,
a size or an angle, among pixels or on the sky. -/

namespace SkyRegion

open Text

namespace Token

/-- The token is read at every place. What is bare in it takes the unit of the place. -/
def ReadsAs [UnitLibrary] (token : Text) (quantity : Unit → Quantity) : Prop :=
  ∀ shape place latitude, Token.quantity shape place latitude token = .ok (quantity place)

end Token

open Token

theorem Numeral.IsWellFormed.readsAs [UnitLibrary] {numeral : Numeral} (wellFormed : numeral.IsWellFormed) :
    ReadsAs numeral.text fun place => ⟨numeral.toNumber, place⟩ :=
  fun shape place latitude => quantity_numeral wellFormed shape place latitude

namespace IsNumberText

variable {text : Text} (written : IsNumberText text)
include written

theorem ofText?_eq : Number.ofText? text = some text.number := by
  obtain ⟨numeral, wellFormed, rfl⟩ := written
  rw [number, wellFormed.ofText?_text]
  rfl

variable [UnitLibrary]

theorem readsAs : ReadsAs text fun place => ⟨text.number, place⟩ := by
  obtain ⟨numeral, wellFormed, rfl⟩ := written
  rw [number, wellFormed.ofText?_text]
  exact wellFormed.readsAs

/-- The mark after a length. -/
theorem readsAs_arcseconds : ReadsAs (text ++ ['"']) fun _ => ⟨text.number, .arcsecond⟩ := by
  intro shape place latitude
  obtain ⟨numeral, wellFormed, rfl⟩ := written
  rw [number, wellFormed.ofText?_text]
  exact quantity_named wellFormed rfl rfl (by decide) shape place latitude

end IsNumberText

namespace PositionMode

/-- The unit of a bare number in a size. -/
def sizeUnit (mode : PositionMode) : Unit := if mode.isPixels then .pixel else .arcsecond

end PositionMode

namespace Shape

theorem pairUp_flatMap {vertices : List α} {xOf yOf : α → Unit → Quantity} (unit : Unit) (start : Nat) :
    pairUp (((vertices.flatMap fun vertex => [xOf vertex, yOf vertex]).zipIdx start).map fun (value, _) => value unit) =
      vertices.map fun vertex => ⟨xOf vertex unit, yOf vertex unit⟩ := by
  induction vertices generalizing start with
  | nil => rfl
  | cons vertex rest ih =>
    rw [List.flatMap_cons, List.cons_append, List.cons_append, List.nil_append, List.zipIdx_cons, List.zipIdx_cons,
      List.map_cons, List.map_cons, pairUp, ih]
    rfl

variable [UnitLibrary] {mode : PositionMode} {x y width height turn : Text}
  {xAs yAs widthAs heightAs : Unit → Quantity} {angle : Number}

theorem quantities_of_readsAs {tokens : List Text} {values : List (Unit → Quantity)}
    (reads : List.Forall₂ ReadsAs tokens values) (shape : Text) (place : Nat → Unit) (latitude : Nat → Bool) :
    quantities shape place latitude tokens = .ok (values.zipIdx.map fun (value, index) => value (place index)) := by
  rw [quantities]
  generalize 0 = start
  induction reads generalizing start with
  | nil => rfl
  | cons first rest ih =>
    simp only [List.zipIdx_cons, List.mapM_cons, first shape (place start), ih]
    rfl

/-- Tokens are read in their order, up to the one that is refused. -/
theorem quantities_of_refused {front : List Text} {values : List (Unit → Quantity)}
    (reads : List.Forall₂ ReadsAs front values) {shape token : Text} {setback : Setback}
    (refused : ∀ place latitude, Token.quantity shape place latitude token = .error setback) (place : Nat → Unit)
    (latitude : Nat → Bool) : quantities shape place latitude (front ++ [token]) = .error setback := by
  rw [quantities]
  generalize 0 = start
  induction reads generalizing start with
  | nil =>
    simp only [List.nil_append, List.zipIdx_cons, List.zipIdx_nil, List.mapM_cons, refused]
    rfl
  | cons first rest ih =>
    simp only [List.cons_append, List.zipIdx_cons, List.mapM_cons, first shape (place start), ih]
    rfl

theorem readPoint_of_readsAs (xReads : ReadsAs x xAs) (yReads : ReadsAs y yAs) (unmarked : x ≠ ShapeKeyword.point.name) :
    readPoint mode ShapeKeyword.point.name [x, y] = .ok (.point ⟨xAs mode.unit, yAs mode.unit⟩) := by
  have tokens : pointTokens? ShapeKeyword.point.name [x, y] = some [x, y] := by
    simp [pointTokens?, unmarked]
  simp only [readPoint, tokens, quantities_of_readsAs (.cons xReads (.cons yReads .nil))]
  rfl

theorem readCentered_angled (mode : PositionMode) (shape : Text) (xReads : ReadsAs x xAs) (yReads : ReadsAs y yAs)
    (widthReads : ReadsAs width widthAs) (heightReads : ReadsAs height heightAs)
    (turnReads : ReadsAs turn fun place => ⟨angle, place⟩) : readCentered mode shape [x, y, width, height, turn] =
      .ok ⟨⟨xAs mode.unit, yAs mode.unit⟩, ⟨widthAs mode.sizeUnit, heightAs mode.sizeUnit⟩, angle⟩ := by
  have reads := List.Forall₂.cons xReads (.cons yReads (.cons widthReads (.cons heightReads (.cons turnReads .nil))))
  simp only [readCentered, quantities_of_readsAs reads]
  cases mode <;> rfl

/-- Without an angle the last place belongs to a size, and a bare number there counts arcseconds. -/
theorem readCentered_straight (mode : PositionMode) (shape : Text) (xReads : ReadsAs x xAs) (yReads : ReadsAs y yAs)
    (widthReads : ReadsAs width widthAs) (heightReads : ReadsAs height heightAs) :
    readCentered mode shape [x, y, width, height] =
      .ok ⟨⟨xAs mode.unit, yAs mode.unit⟩, ⟨widthAs mode.sizeUnit, heightAs .arcsecond⟩, 0⟩ := by
  have reads := List.Forall₂.cons xReads (.cons yReads (.cons widthReads (.cons heightReads .nil)))
  simp only [readCentered, quantities_of_readsAs reads]
  cases mode <;> rfl

theorem readCentered_refused (mode : PositionMode) {shape : Text} {setback : Setback} (xReads : ReadsAs x xAs)
    (yReads : ReadsAs y yAs) (widthReads : ReadsAs width widthAs) (heightReads : ReadsAs height heightAs)
    (refused : ∀ place latitude, Token.quantity shape place latitude turn = .error setback) :
    readCentered mode shape [x, y, width, height, turn] = .error setback := by
  have reads := List.Forall₂.cons xReads (.cons yReads (.cons widthReads (.cons heightReads .nil)))
  have read := quantities_of_refused reads refused (centeredUnitIn mode 5) (· = 1)
  change (do let _ ← quantities shape (centeredUnitIn mode 5) (· = 1) ([x, y, width, height] ++ [turn]); _) = _
  rw [read]
  rfl

theorem readEllipse_angled (xReads : ReadsAs x xAs) (yReads : ReadsAs y yAs) (widthReads : ReadsAs width widthAs)
    (heightReads : ReadsAs height heightAs) (turnReads : ReadsAs turn fun place => ⟨angle, place⟩) :
    readEllipse mode [x, y, width, height, turn] =
      .ok (.ellipse ⟨xAs mode.unit, yAs mode.unit⟩ ⟨widthAs mode.sizeUnit, heightAs mode.sizeUnit⟩
        (if width = height then 0 else fromVertical angle)) := by
  rw [readEllipse, readCentered_angled _ _ xReads yReads widthReads heightReads turnReads]
  simp

theorem readEllipse_straight (xReads : ReadsAs x xAs) (yReads : ReadsAs y yAs) (widthReads : ReadsAs width widthAs)
    (heightReads : ReadsAs height heightAs) : readEllipse mode [x, y, width, height] =
      .ok (.ellipse ⟨xAs mode.unit, yAs mode.unit⟩ ⟨widthAs mode.sizeUnit, heightAs .arcsecond⟩
        (if width = height then 0 else fromVertical 0)) := by
  rw [readEllipse, readCentered_straight _ _ xReads yReads widthReads heightReads]
  simp

theorem readCircle_of_readsAs (xReads : ReadsAs x xAs) (yReads : ReadsAs y yAs) (widthReads : ReadsAs width widthAs) :
    readCircle mode [x, y, width] =
      .ok (.ellipse ⟨xAs mode.unit, yAs mode.unit⟩ ⟨widthAs mode.sizeUnit, widthAs .arcsecond⟩ 0) := by
  refine (readEllipse_straight xReads yReads widthReads widthReads).trans ?_
  rw [if_pos rfl]

section polygon

variable {α : Type} {vertices : List α} {xText yText : α → Text} {xOf yOf : α → Unit → Quantity}

theorem readPolygon_of_readsAs
    (reads : ∀ vertex ∈ vertices, ReadsAs (xText vertex) (xOf vertex) ∧ ReadsAs (yText vertex) (yOf vertex))
    (enough : 3 ≤ vertices.length) : readPolygon mode (vertices.flatMap fun vertex => [xText vertex, yText vertex]) =
      .ok (.polygon (vertices.map fun vertex => ⟨xOf vertex mode.unit, yOf vertex mode.unit⟩)) := by
  have count : (vertices.flatMap fun vertex => [xText vertex, yText vertex]).length = 2 * vertices.length := by
    simp [List.length_flatMap, Nat.mul_comm]
  have each : List.Forall₂ ReadsAs (vertices.flatMap fun vertex => [xText vertex, yText vertex])
      (vertices.flatMap fun vertex => [xOf vertex, yOf vertex]) := by
    clear enough count
    induction vertices with
    | nil => exact .nil
    | cons vertex rest ih =>
      rw [List.forall_mem_cons] at reads
      exact .cons reads.1.1 (.cons reads.1.2 (ih reads.2))
  rw [readPolygon, if_neg (by omega), if_neg (by omega)]
  simp only [quantities_of_readsAs each]
  exact congrArg (fun vertices => Except.ok (Shape.polygon vertices)) (pairUp_flatMap mode.unit 0)

end polygon

end Shape
end SkyRegion
