import Mathlib.Data.List.Forall2
import SkyRegion.Import.State
import SkyRegion.Proofs.Dialogue
import SkyRegion.Proofs.Equality
import SkyRegion.Proofs.ShapeReading
import SkyRegion.Proofs.WrittenRegion

/-! Written regions read again as pixels. What comes back has the kind and the name of the region, and the numbers
that its texts are read as; two radii that are equal numbers come back as one. -/

namespace SkyRegion

open Image Text

namespace Region

def rereadPoint (point : Point) : Point := ⟨(point.x.fixed 2).number, (point.y.fixed 2).number⟩

def rereadPosition (point : Point) : Position :=
  ⟨⟨(point.x.fixed 2).number, .pixel⟩, ⟨(point.y.fixed 2).number, .pixel⟩⟩

theorem readEllipse_written [UnitLibrary] {x y width height : Text} {angles : List Text} (single : angles.length ≤ 1)
    (written : ∀ token ∈ [x, y, width, height] ++ angles, IsNumberText token) :
    ∃ unit, Shape.readEllipse .pixels ([x, y, width, height] ++ angles) =
      .ok (.ellipse ⟨⟨x.number, .pixel⟩, ⟨y.number, .pixel⟩⟩ ⟨⟨width.number, .pixel⟩, ⟨height.number, unit⟩⟩
        (if width = height then 0 else Shape.fromVertical ((angles.head?.map (·.number)).getD 0))) := by
  simp only [List.cons_append, List.nil_append, List.forall_mem_cons] at written
  obtain ⟨x, y, width, height, turns⟩ := written
  match angles, single with
  | [], _ => exact ⟨.arcsecond, Shape.readEllipse_straight x.readsAs y.readsAs width.readsAs height.readsAs⟩
  | [angle], _ =>
    have turn := turns angle List.mem_cons_self
    exact ⟨.pixel, Shape.readEllipse_angled x.readsAs y.readsAs width.readsAs height.readsAs turn.readsAs⟩

theorem readPolygon_written [UnitLibrary] {points : List Point} (enough : 3 ≤ points.length)
    (written : ∀ token ∈ points.flatMap pointTexts, IsNumberText token) :
    Shape.readPolygon .pixels (points.flatMap pointTexts) = .ok (.polygon (points.map rereadPosition)) := by
  refine Shape.readPolygon_of_readsAs (fun point listed => ?_) enough
  have texts := fun token member => written token (List.mem_flatMap_of_mem listed member)
  exact ⟨(texts _ List.mem_cons_self).readsAs, (texts _ (List.mem_cons_of_mem _ List.mem_cons_self)).readsAs⟩

theorem place_polygon {points : List Point} (enough : 3 ≤ points.length) (label : Text) (fileId : Int) :
    (Shape.polygon (points.map rereadPosition)).place .pixels label fileId =
      pure ⟨.polygon, points.map rereadPoint, 0, label, fileId⟩ := by
  have placed : Shape.placePoints .pixels (.polygon (points.map rereadPosition)) = pure (points.map rereadPoint) := by
    rw [Shape.placePoints, List.mapM_map]
    exact List.mapM_pure
  rw [Shape.place, placed, pure_bind]
  simp [Shape.kind, Region.check, RegionKind.fits, enough, Shape.rotation]

end Region

/-- Equal numbers are read as equal ones when they were written with the same count of places. Their texts are the
same, except that a zero keeps its sign. -/
theorem Floating.exists_ofText?_of_same {x y : Number} (finite : x.isFinite = true) (finite' : y.isFinite = true)
    (equal : x.same y = true) (places : Nat) : ∃ value, Number.ofText? (y.fixed (places + 1)) = some value ∧
      value.same (x.fixed (places + 1)).number = true := by
  refine ⟨_, (fixed_isNumberText finite' places).ofText?_eq, ?_⟩
  obtain ⟨magnitudes, signs | zero⟩ := magnitude_eq_of_toRat_eq ((same_iff finite finite').mp equal)
  · rw [number_fixed finite', number_fixed finite, magnitudes, signs]
    exact same_self (Number.isNan_ofDecimal ..)
  · have none : (Rounding.nearestEven 0).toNat = 0 := by decide +kernel
    rw [number_fixed finite', number_fixed finite, magnitudes, zero, zero_mul, none]
    exact Number.zero_same _ _

/-- A number comes back as the one that its text with two places is read as, up to the sign of zero. -/
def IsReread (x y : Number) : Prop := ∃ value, Number.ofText? (x.fixed 2) = some value ∧ value.same y = true

theorem isReread_of_same {x y : Number} (finite : x.isFinite = true) (finite' : y.isFinite = true)
    (equal : x.same y = true) : IsReread y (x.fixed 2).number :=
  Floating.exists_ofText?_of_same finite finite' equal 1

theorem isReread_number {x : Number} (finite : x.isFinite = true) : IsReread x (x.fixed 2).number :=
  isReread_of_same finite finite ((Floating.same_iff finite finite).mpr rfl)

namespace Region

/-- How a region comes back from its line. A circle is written with one radius, and has it twice when it is read. -/
structure Rereads (region region' : Region) : Prop where
  kind : region'.kind = region.kind
  name : region'.name = region.name
  exact : region.isCircle = false → region'.points = region.points.map rereadPoint
  circle : region.isCircle = true → ∀ center size, region.points = [center, size] →
    region'.points = [rereadPoint center, ⟨(size.x.fixed 2).number, (size.x.fixed 2).number⟩]
  points : List.Forall₂ (fun point point' => IsReread point.x point'.x ∧ IsReread point.y point'.y)
    region.points region'.points
  box : region.kind = .rectangle → region'.rotation = region.rotation.angleText.number
  flat : region.kind = .point ∨ region.kind = .polygon → region'.rotation = 0
  ellipse : region.kind = .ellipse → ∀ center size, region.points = [center, size] → size.x.same size.y = false →
    size.x.fixed 2 ≠ size.y.fixed 2 →
      region'.rotation = Shape.fromVertical ((region.angleTexts.head?.map (·.number)).getD 0)

theorem isReread_rereadPoint {region : Region} (drawable : region.IsDrawable) {point : Point}
    (listed : point ∈ region.points) : IsReread point.x (rereadPoint point).x ∧ IsReread point.y (rereadPoint point).y :=
  ⟨isReread_number (drawable.x point listed), isReread_number (drawable.y point listed)⟩

theorem WrittenAs.rereads [UnitLibrary] {region : Region} {keyword : ShapeKeyword} {arguments : List Text}
    (written : region.WrittenAs keyword arguments) (drawable : region.IsDrawable)
    (plain : ∀ argument ∈ arguments, IsNumberText argument) (fileId : Int) :
    ∃ shape region', Shape.read .pixels keyword keyword.name arguments = .ok shape ∧
      shape.place .pixels region.name fileId = pure region' ∧ region.Rereads region' := by
  have rereads {point : Point} (listed : point ∈ region.points) := isReread_rereadPoint drawable listed
  have finite {point : Point} (listed : point ∈ region.points) := drawable.x point listed
  cases written with
  | @point center kind points =>
    rw [points] at rereads
    simp only [pointTexts, List.forall_mem_cons] at plain
    refine ⟨_, _, Shape.readPoint_of_readsAs plain.1.readsAs plain.2.1.readsAs plain.1.isToken.ne_point, rfl, ?_⟩
    exact {
      kind := kind.symm
      name := rfl
      exact := fun _ => by rw [points]; rfl
      circle := by simp [isCircle, kind]
      points := points ▸ .cons (rereads (by simp)) .nil
      box := by simp [kind]
      flat := fun _ => rfl
      ellipse := by simp [kind] }
  | @box center size kind points =>
    rw [points] at rereads
    simp only [pointTexts, List.cons_append, List.nil_append, List.forall_mem_cons] at plain
    obtain ⟨x, y, width, height, turn, _⟩ := plain
    have read := Shape.readCentered_angled .pixels ShapeKeyword.box.name x.readsAs y.readsAs width.readsAs height.readsAs
      turn.readsAs
    refine ⟨_, _, congrArg (· >>= _) read, rfl, ?_⟩
    exact {
      kind := kind.symm
      name := rfl
      exact := fun _ => by rw [points]; rfl
      circle := by simp [isCircle, kind]
      points := points ▸ .cons (rereads (by simp)) (.cons (rereads (by simp)) .nil)
      box := fun _ => rfl
      flat := by simp [kind]
      ellipse := by simp [kind] }
  | @circle center size kind points equal =>
    rw [points] at rereads finite
    -- Only the width is written, and both radii come back from its text.
    have height := isReread_of_same (finite (by simp)) (drawable.y size (by simp [points])) equal
    simp only [pointTexts, List.cons_append, List.nil_append, List.forall_mem_cons] at plain
    refine ⟨_, _, Shape.readCircle_of_readsAs plain.1.readsAs plain.2.1.readsAs plain.2.2.1.readsAs, rfl, ?_⟩
    exact {
      kind := kind.symm
      name := rfl
      exact := by simp [isCircle, kind, points, equal]
      circle := fun _ _ _ same => by
        rw [points] at same
        cases same
        rfl
      points := points ▸ .cons (rereads (by simp)) (.cons ⟨isReread_number (finite (by simp)), height⟩ .nil)
      box := by simp [kind]
      flat := by simp [kind]
      ellipse := fun _ _ _ same unequal => by simp_all }
  | @ellipse center size kind points unequal =>
    rw [points] at rereads
    have single : region.angleTexts.length ≤ 1 := by
      rw [angleTexts]
      split <;> simp
    obtain ⟨unit, read⟩ := readEllipse_written single plain
    refine ⟨_, _, read, rfl, ?_⟩
    exact {
      kind := kind.symm
      name := rfl
      exact := fun _ => by rw [points]; rfl
      circle := by simp [isCircle, kind, points, unequal]
      points := points ▸ .cons (rereads (by simp)) (.cons (rereads (by simp)) .nil)
      box := by simp [kind]
      flat := by simp [kind]
      ellipse := by
        intro _ center' size' same _ differs
        rw [points] at same
        cases same
        exact if_neg differs }
  | polygon kind enough =>
    refine ⟨_, _, readPolygon_written enough plain, place_polygon enough _ _, ?_⟩
    exact {
      kind := kind.symm
      name := rfl
      exact := fun _ => rfl
      circle := by simp [isCircle, kind]
      points := by
        rw [List.forall₂_map_right_iff, List.forall₂_same]
        exact fun _ listed => rereads listed
      box := by simp [kind]
      flat := fun _ => rfl
      ellipse := by simp [kind] }

end Region
end SkyRegion
