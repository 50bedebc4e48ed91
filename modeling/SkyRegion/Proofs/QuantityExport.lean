import SkyRegion.Proofs.Reimport
import SkyRegion.Proofs.SkyText

/-! A region among pixels added by its points or by its quantities. The definitions differ in their places and, on a
polygon, in their separators; of whole numbers the same shape is read from both. -/

namespace SkyRegion

open Image Text Floating

/-- The number that is read from the text of a whole number, however many places it was written with. -/
def Number.restored (x : Number) : Number := ofMagnitude x.isNegative x.magnitude

namespace Point

structure IsWhole (point : Point) : Prop where
  x : ∃ n, IsInt point.x n
  y : ∃ n, IsInt point.y n

def quantities (point : Point) : List Quantity := [⟨point.x, .pixel⟩, ⟨point.y, .pixel⟩]

def placedTexts (places : Nat) (point : Point) : List Text := [point.x.fixed places, point.y.fixed places]

def restored (point : Point) : Position := ⟨⟨Number.restored point.x, .pixel⟩, ⟨Number.restored point.y, .pixel⟩⟩

end Point

section reading

variable {x y : Number} {center size : Point} {places : Nat}

theorem Number.readsAs_fixed [UnitLibrary] (whole : ∃ n, IsInt x n) (few : places < 399) :
    Token.ReadsAs (x.fixed (places + 1)) fun place => ⟨Number.restored x, place⟩ := by
  obtain ⟨n, whole⟩ := whole
  rw [Number.restored, ← whole.number_fixed_eq few]
  exact (fixed_isNumberText whole.finite places).readsAs

theorem Number.isToken_fixed (whole : ∃ n, IsInt x n) (places : Nat) : IsToken (x.fixed (places + 1)) := by
  obtain ⟨n, whole⟩ := whole
  exact (fixed_isNumberText whole.finite places).isToken

/-- Whole numbers that are not the same are told apart by their texts. -/
theorem Number.fixed_ne_fixed (whole : ∃ n, IsInt x n) (whole' : ∃ n, IsInt y n) (unequal : x.same y = false)
    (few : places < 399) : x.fixed (places + 1) ≠ y.fixed (places + 1) := by
  obtain ⟨m, whole⟩ := whole
  obtain ⟨n, whole'⟩ := whole'
  intro texts
  have equal : (m : Rat) = n := by
    rw [← (whole.number_fixed few).value, ← (whole'.number_fixed few).value, texts]
  rw [Bool.eq_false_iff, Ne, same_iff whole.finite whole'.finite, whole.value, whole'.value] at unequal
  exact unequal equal

theorem Point.IsWhole.isToken {point : Point} (whole : point.IsWhole) (places : Nat) :
    ∀ token ∈ point.placedTexts (places + 1), IsToken token := by
  simp only [Point.placedTexts, List.forall_mem_cons]
  exact ⟨Number.isToken_fixed whole.x places, Number.isToken_fixed whole.y places, List.forall_mem_nil _⟩

namespace Shape

open Number

variable [UnitLibrary]

theorem readPoint_placed (whole : center.IsWhole) (few : places < 399) :
    readPoint .pixels ShapeKeyword.point.name (center.placedTexts (places + 1)) = .ok (.point center.restored) :=
  readPoint_of_readsAs (readsAs_fixed whole.x few) (readsAs_fixed whole.y few) (isToken_fixed whole.x places).ne_point

theorem readBox_placed (whole : center.IsWhole) (whole' : size.IsWhole) {turn : Text} (written : IsNumberText turn)
    (few : places < 399) : readBox .pixels (center.placedTexts (places + 1) ++ size.placedTexts (places + 1) ++ [turn]) =
      .ok (.box center.restored ⟨size.restored.x, size.restored.y⟩ turn.number) :=
  congrArg (· >>= _) (readCentered_angled .pixels ShapeKeyword.box.name (readsAs_fixed whole.x few)
    (readsAs_fixed whole.y few) (readsAs_fixed whole'.x few) (readsAs_fixed whole'.y few) written.readsAs)

theorem readCircle_placed (whole : center.IsWhole) (whole' : size.IsWhole) (few : places < 399) :
    readCircle .pixels (center.placedTexts (places + 1) ++ [size.x.fixed (places + 1)]) =
      .ok (.ellipse center.restored ⟨size.restored.x, ⟨Number.restored size.x, .arcsecond⟩⟩ 0) :=
  readCircle_of_readsAs (readsAs_fixed whole.x few) (readsAs_fixed whole.y few) (readsAs_fixed whole'.x few)

theorem readEllipse_placed (whole : center.IsWhole) (whole' : size.IsWhole) (unequal : size.x.same size.y = false)
    {turn : Text} (written : IsNumberText turn) (few : places < 399) :
    readEllipse .pixels (center.placedTexts (places + 1) ++ size.placedTexts (places + 1) ++ [turn]) =
      .ok (.ellipse center.restored ⟨size.restored.x, size.restored.y⟩ (fromVertical turn.number)) := by
  have read := @readEllipse_angled _ .pixels _ _ _ _ _ _ _ _ _ _ (readsAs_fixed whole.x few) (readsAs_fixed whole.y few)
    (readsAs_fixed whole'.x few) (readsAs_fixed whole'.y few) written.readsAs
  rwa [if_neg (fixed_ne_fixed whole'.x whole'.y unequal few)] at read

theorem readPolygon_placed {points : List Point} (whole : ∀ point ∈ points, point.IsWhole) (enough : 3 ≤ points.length)
    (few : places < 399) : readPolygon .pixels (points.flatMap (·.placedTexts (places + 1))) =
      .ok (.polygon (points.map (·.restored))) :=
  readPolygon_of_readsAs (fun point listed =>
    ⟨readsAs_fixed (whole point listed).x few, readsAs_fixed (whole point listed).y few⟩) enough

end Shape

end reading

namespace QuantityStyle

theorem mapM_position_pixel (quantities : List Quantity) :
    quantities.mapM (position .pixel) = .ok (quantities.map fun quantity => quantity.value.fixed 4) :=
  List.mapM_pure

theorem parts_pixel (quantities rest : List Quantity) :
    parts quantities.length (position .pixel) (quantities ++ rest) =
      .ok (quantities.map fun quantity => quantity.value.fixed 4) := by
  rw [parts, List.take_left, mapM_position_pixel]
  exact if_neg (by simp)

theorem centered_pixel {lengths : Nat} {quantities : List Quantity} (count : quantities.length = 2 + lengths)
    (rest : List Quantity) : centered .pixel lengths (quantities ++ rest) =
      .ok (quantities.map fun quantity => quantity.value.fixed 4) := by
  rw [centered, if_pos rfl, ← count, parts_pixel]

end QuantityStyle

namespace Region

variable {region : Region} {keyword : ShapeKeyword} {arguments : List Text} {angle : Number}

/-- A region with whole numbers for its points, turned by whole degrees within a turn. -/
structure IsWhole (region : Region) : Prop where
  fits : region.kind.fits region.points.length = true
  points : ∀ point ∈ region.points, point.IsWhole
  rotation : ∃ degrees : Nat, degrees < 360 ∧ IsInt region.rotation degrees

theorem IsWhole.isWritable (whole : region.IsWhole) : region.IsWritable := by
  obtain ⟨degrees, turn, rotation⟩ := whole.rotation
  refine ⟨whole.fits, fun point listed => ?_, fun point listed => ?_, rotation.isFinite_convert (by omega)⟩
  · obtain ⟨n, x⟩ := (whole.points point listed).x
    exact x.finite
  · obtain ⟨n, y⟩ := (whole.points point listed).y
    exact y.finite

theorem IsWhole.centered {center size : Point} (whole : region.IsWhole) (points : region.points = [center, size]) :
    center.IsWhole ∧ size.IsWhole :=
  ⟨whole.points center (by simp [points]), whole.points size (by simp [points])⟩

/-- Within a turn the angle of an ellipse is positive, so that it is written. -/
theorem IsWhole.positive (whole : region.IsWhole) : Floating.below 0 (toHorizontal region.rotation) = true ∧
    (toHorizontal region.rotation).same 0 = false := by
  obtain ⟨degrees, turn, rotation⟩ := whole.rotation
  have turned := toHorizontal_isInt rotation (by omega)
  have zero := Number.isInt_ofNat 0 (by decide)
  have positive : (0 : Int) < degreesToHorizontal degrees := by
    unfold degreesToHorizontal
    split <;> omega
  refine ⟨(zero.below_iff turned).mpr positive, ?_⟩
  rw [Bool.eq_false_iff, Ne, same_iff turned.finite zero.finite, turned.value, zero.value]
  exact_mod_cast positive.ne'

/-- The points as quantities of pixels, one after the other. -/
def pixelQuantities (region : Region) : List Quantity := region.points.flatMap (·.quantities)

theorem fitsQuantities_pixelQuantities (fits : region.kind.fits region.points.length = true) :
    Writer.fitsQuantities region.kind region.pixelQuantities.length = true := by
  have count : region.pixelQuantities.length = 2 * region.points.length := by
    simp [pixelQuantities, Point.quantities, List.length_flatMap, Nat.mul_comm]
  rw [count]
  cases kind : region.kind <;> simp_all [RegionKind.fits, Writer.fitsQuantities]
  omega

theorem pixelQuantities_centered {center size : Point} (points : region.points = [center, size]) :
    region.pixelQuantities = center.quantities ++ size.quantities := by
  simp [pixelQuantities, points]

/-- The definition of the quantities has the keyword of the region, and the same shape is read from its arguments. -/
theorem WrittenAs.exists_quantityDefinition [UnitLibrary] (written : region.WrittenAs keyword arguments)
    (whole : region.IsWhole) (box : region.kind = .rectangle → angle = region.rotation)
    (ellipse : region.kind = .ellipse → angle = toHorizontal region.rotation) :
    ∃ definition arguments', QuantityStyle.pixel.definition region.kind region.pixelQuantities angle = .ok definition ∧
      IsWritten definition keyword arguments' ∧
        Shape.read .pixels keyword keyword.name arguments' = Shape.read .pixels keyword keyword.name arguments := by
  have plain := written.plain whole.isWritable
  have few : 1 < 399 ∧ 3 < 399 := by decide
  have tokens {point : Point} (listed : point ∈ region.points) := (whole.points point listed).isToken 3
  cases written with
  | @point center kind points =>
    have center' := whole.points center (by simp [points])
    have quantities : region.pixelQuantities = center.quantities := by simp [pixelQuantities, points]
    have parts := QuantityStyle.parts_pixel center.quantities []
    refine ⟨_, _, ?_, isWritten_call_of_tokens (by decide) (center'.isToken 3) rfl,
      (Shape.readPoint_placed center' few.2).trans (Shape.readPoint_placed center' few.1).symm⟩
    rw [QuantityStyle.definition.eq_def, kind, quantities]
    exact congrArg (Except.map _) parts
  | @box center size kind points =>
    obtain ⟨center', size'⟩ := whole.centered points
    have turn : IsNumberText region.rotation.angleText := plain _ (by simp)
    have centered := @QuantityStyle.centered_pixel 2 (center.quantities ++ size.quantities) rfl []
    have tokens := List.forall_mem_append.mpr ⟨List.forall_mem_append.mpr ⟨center'.isToken 3, size'.isToken 3⟩,
      List.forall_mem_singleton.mpr turn.isToken⟩
    refine ⟨_, _, ?_, isWritten_call_of_tokens (by decide) tokens rfl,
      (Shape.readBox_placed center' size' turn few.2).trans (Shape.readBox_placed center' size' turn few.1).symm⟩
    rw [QuantityStyle.definition.eq_def, kind, pixelQuantities_centered points, box kind]
    exact congrArg (· >>= _) centered
  | @circle center size kind points equal =>
    obtain ⟨center', size'⟩ := whole.centered points
    have centered := @QuantityStyle.centered_pixel 1 (center.quantities ++ [⟨size.x, .pixel⟩]) rfl [⟨size.y, .pixel⟩]
    have tokens := List.forall_mem_append.mpr ⟨center'.isToken 3,
      List.forall_mem_singleton.mpr (Number.isToken_fixed size'.x 3)⟩
    refine ⟨_, _, ?_, isWritten_call_of_tokens (by decide) tokens rfl,
      (Shape.readCircle_placed center' size' few.2).trans (Shape.readCircle_placed center' size' few.1).symm⟩
    rw [QuantityStyle.definition.eq_def, kind, pixelQuantities_centered points]
    simp only [QuantityStyle.ellipse, Point.quantities, List.cons_append, List.nil_append, List.getElem?_cons_succ,
      List.getElem?_cons_zero, equal, if_true]
    exact congrArg (· >>= _) centered
  | @ellipse center size kind points unequal =>
    obtain ⟨center', size'⟩ := whole.centered points
    have angles : region.angleTexts = [(toHorizontal region.rotation).angleText] := if_pos whole.positive.1
    rw [angles] at plain ⊢
    have turn : IsNumberText (toHorizontal region.rotation).angleText := plain _ (by simp)
    have centered := @QuantityStyle.centered_pixel 2 (center.quantities ++ size.quantities) rfl []
    have tokens := List.forall_mem_append.mpr ⟨List.forall_mem_append.mpr ⟨center'.isToken 3, size'.isToken 3⟩,
      List.forall_mem_singleton.mpr turn.isToken⟩
    refine ⟨_, _, ?_, isWritten_call_of_tokens (by decide) tokens rfl,
      (Shape.readEllipse_placed center' size' unequal turn few.2).trans
        (Shape.readEllipse_placed center' size' unequal turn few.1).symm⟩
    rw [QuantityStyle.definition.eq_def, kind, pixelQuantities_centered points]
    simp only [QuantityStyle.ellipse, Point.quantities, List.cons_append, List.nil_append, List.getElem?_cons_succ,
      List.getElem?_cons_zero, unequal, ellipse kind, whole.positive.2]
    exact congrArg (· >>= _) centered
  | polygon kind enough =>
    have texts := QuantityStyle.mapM_position_pixel region.pixelQuantities
    have tokens : ∀ token ∈ region.points.flatMap (·.placedTexts 4), IsToken token := by
      intro token listed
      obtain ⟨point, listed, member⟩ := List.mem_flatMap.mp listed
      exact tokens listed token member
    have same : region.pixelQuantities.map (fun quantity => quantity.value.fixed 4) =
        region.points.flatMap (·.placedTexts 4) := by
      rw [pixelQuantities, List.map_flatMap]
      rfl
    refine ⟨_, _, ?_, isWritten_call_of_tokens (by decide) tokens rfl,
      (Shape.readPolygon_placed whole.points enough few.2).trans (Shape.readPolygon_placed whole.points enough few.1).symm⟩
    rw [QuantityStyle.definition.eq_def, kind]
    simp only [QuantityStyle.polygon, texts, same]
    simp [call, separated]

end Region

namespace Writer

/-- The lines of a file that one region is added to by its quantities. -/
def exportedQuantities (hasImage : Bool) (region : Region) (angle : Number) : Writing (List Text) := do
  let writer ← create {} .pixel hasImage
  (← writer.addQuantities region.kind region.pixelQuantities angle region.name).finished

theorem exportedQuantities_eq (hasImage : Bool) {region : Region} {angle : Number} {definition : Text}
    (fits : region.kind.fits region.points.length = true)
    (defined : QuantityStyle.pixel.definition region.kind region.pixelQuantities angle = .ok definition) :
    exportedQuantities hasImage region angle =
      pure ((pixelHeader ++ [labelled definition region.name]).map (· ++ ['\n'])) := by
  have added : addQuantities ⟨.pixel, "physical".toList, .pixel, pixelHeader.map (· ++ ['\n']), 0⟩ region.kind
      region.pixelQuantities angle region.name =
        .ok ⟨.pixel, "physical".toList, .pixel, (pixelHeader ++ [labelled definition region.name]).map (· ++ ['\n']), 1⟩ := by
    rw [addQuantities, Region.fitsQuantities_pixelQuantities fits, defined, List.map_append]
    rfl
  rw [exportedQuantities, create_pixel, pure_bind, added]
  rfl

end Writer

namespace Import

/-- A file with one region under a header for pixels is imported as the region that its definition gives. -/
theorem ofText_definition [UnitLibrary] {definition name : Text} {keyword : ShapeKeyword} {arguments : List Text}
    {shape : Shape} {fileId : Int} {found : Region}
    (written : IsWritten definition keyword arguments) (named : IsWritableName name)
    (visible : holds "global".toList name = false) (read : Shape.read .pixels keyword keyword.name arguments = .ok shape)
    (placed : shape.place .pixels name fileId = pure found) :
    ofText fileId ({} : Settings).lineDelimiter
      ((Writer.pixelHeader ++ [Writer.labelled definition name]).map (· ++ ['\n'])).flatten = pure ⟨[found], []⟩ := by
  have undivided : ∀ line ∈ Writer.pixelHeader ++ [Writer.labelled definition name],
      (∀ c ∈ line, isLineBreak c = false) ∧ ';' ∉ line := by
    refine List.forall_mem_append.mpr ⟨pixelHeader_undivided, List.forall_mem_singleton.mpr ?_⟩
    exact ⟨written.isLineBreak_labelled named.single, written.undivided_labelled named.undivided⟩
  have lines := @logicalLinesFrom_flatMap ';' (Writer.pixelHeader ++ [Writer.labelled definition name]) 1
    (fun line listed => (undivided line listed).1) (fun line listed => (undivided line listed).2)
  refine ofText_of_run ?_
  have line := importLine_labelled written (written.label_labelled named.closed) visible
    (show ({ fileId } : ImportState).currentMode? = some .pixels from rfl) read ((1 + Writer.pixelHeader.length : Nat) : Int)
  rw [← List.flatMap_def, lines, numbered_append, importLines_pixelHeader, numbered_cons, List.forM, run_bind, trim_trim,
    line, placed]
  rfl

/-- A region of whole numbers comes back as the same region whether its points or its quantities are added. -/
theorem quantities_imported_as_points [UnitLibrary] (hasImage : Bool) (fileId : Int) {region : Region} {angle : Number}
    (whole : region.IsWhole) (named : IsWritableName region.name) (visible : holds "global".toList region.name = false)
    (box : region.kind = .rectangle → angle = region.rotation)
    (ellipse : region.kind = .ellipse → angle = toHorizontal region.rotation) :
    ∃ lines lines' found, Writer.exported hasImage [region] = pure lines ∧
      Writer.exportedQuantities hasImage region angle = pure lines' ∧
      ofText fileId ({} : Settings).lineDelimiter lines.flatten = pure ⟨[found], []⟩ ∧
      ofText fileId ({} : Settings).lineDelimiter lines'.flatten = pure ⟨[found], []⟩ ∧ region.Rereads found := by
  obtain ⟨keyword, arguments, written⟩ := Region.writtenAs_of_fits whole.fits
  have plain := written.plain whole.isWritable
  have defined := written.isWritten fun argument listed => (plain argument listed).isToken
  obtain ⟨shape, found, read, placed, rereads⟩ := written.rereads whole.isWritable.isDrawable plain fileId
  obtain ⟨definition, arguments', quantities, defined', same⟩ := written.exists_quantityDefinition whole box ellipse
  exact ⟨_, _, found, Writer.exported_eq hasImage (List.cons_ne_nil region []),
    Writer.exportedQuantities_eq hasImage whole.fits quantities,
    ofText_definition defined named visible read placed,
    ofText_definition defined' named visible (same.trans read) placed, rereads⟩

section

open CommonUnits

/-- An ellipse beyond all exact counts, turned so far that its angle is brought down by a turn. -/
theorem quantities_imported_as_points_of_ellipse :
    let region : Region := ⟨.ellipse, [⟨-0, 1152921504606846976⟩, ⟨3, -7⟩], 271, "a # b".toList, 0⟩
    region.IsWhole ∧ IsWritableName region.name ∧ holds "global".toList region.name = false ∧
      ∃ lines lines' found, Writer.exported false [region] = pure lines ∧
        Writer.exportedQuantities false region 1 = pure lines' ∧
        ofText 0 ({} : Settings).lineDelimiter lines.flatten = pure ⟨[found], []⟩ ∧
        ofText 0 ({} : Settings).lineDelimiter lines'.flatten = pure ⟨[found], []⟩ ∧ region.Rereads found := by
  intro region
  have whole : region.IsWhole := {
    fits := by decide
    points := List.forall_mem_cons.mpr ⟨⟨⟨0, by decide +kernel⟩, ⟨2 ^ 60, by decide +kernel⟩⟩,
      List.forall_mem_singleton.mpr ⟨⟨3, by decide +kernel⟩, ⟨-7, by decide +kernel⟩⟩⟩
    rotation := ⟨271, by decide, by decide +kernel⟩ }
  have named : IsWritableName region.name := by decide +kernel
  have visible : holds "global".toList region.name = false := by decide +kernel
  exact ⟨whole, named, visible, quantities_imported_as_points false 0 whole named visible nofun fun _ => by decide +kernel⟩

end

end Import
end SkyRegion
