import SkyRegion.CommonUnits.Library
import SkyRegion.Proofs.ImportRun
import SkyRegion.Proofs.Rereading
import SkyRegion.Proofs.WholeText
import SkyRegion.Proofs.WrittenAngle

/-! Regions written to a file and imported from it again. The header leaves the import as it began, and every line
after it adds the region that was written on it; a line whose name makes it look like style defaults adds none. -/

namespace SkyRegion

open Image Text

def Region.line (region : Region) : Text := Writer.labelled region.definition region.name

namespace Writer

/-- The lines of a file that regions of an image are added to. -/
def exported (hasImage : Bool) (regions : List Region) : Writing (List Text) := do
  (← regions.foldlM addRegion (← create {} .pixel hasImage)).finished

def pixelHeader : List Text :=
  [banner ({} : Settings).formatVersion, ({} : Style).line, "physical".toList]

theorem create_pixel (hasImage : Bool) :
    create {} .pixel hasImage = pure ⟨.pixel, "physical".toList, .pixel, pixelHeader.map (· ++ ['\n']), 0⟩ := by
  have header : header {} "physical".toList = .ok (pixelHeader.map (· ++ ['\n'])) := by decide +kernel
  rw [create, header]
  rfl

theorem foldlM_addRegion {writer : Writer} (pixel : writer.space = .pixel) (regions : List Region) :
    regions.foldlM addRegion writer = pure { writer with
      lines := writer.lines ++ regions.map (·.line ++ ['\n']), count := writer.count + regions.length } := by
  induction regions generalizing writer with
  | nil => simp
  | cons region rest ih =>
    have step : addRegion writer region = pure (writer.append region.definition region.name) := by
      rw [addRegion, pixel]
    rw [List.foldlM_cons, step, pure_bind, @ih (writer.append region.definition region.name) pixel]
    simp [append, Region.line, Nat.add_assoc, Nat.add_comm 1]

theorem exported_eq (hasImage : Bool) {regions : List Region} (present : regions ≠ []) :
    exported hasImage regions = pure ((pixelHeader ++ regions.map (·.line)).map (· ++ ['\n'])) := by
  have count : (0 + regions.length : Nat) ≠ 0 := by simpa using present
  rw [exported, create_pixel, pure_bind, foldlM_addRegion rfl, pure_bind, finished, if_neg count, List.map_append,
    List.map_map]
  rfl

end Writer

/-- The name does not make a line one of style defaults. -/
def Region.isKept (region : Region) : Bool := !holds "global".toList region.name

namespace Import

variable {state : ImportState}

section

variable [UnitLibrary]

/-- What the line of a definition adds is decided by reading and placing its shape. -/
theorem importLine_append {definition tail : Text} {keyword : ShapeKeyword} {arguments : List Text} {mode : PositionMode}
    (written : IsWritten definition keyword arguments) (isTail : IsTail tail) (visible : holds "global".toList tail = false)
    (reads : state.currentMode? = some mode) (number : Int) : (importLine number (definition ++ tail)).run.run state =
      (fun placed => added state (reported number keyword placed)) <$> (show Placing Region from do
        (← Shape.read mode keyword keyword.name arguments).place mode
          (((Definition.ofText (definition ++ tail)).properties.get? "text".toList).getD []) state.fileId).run := by
  obtain ⟨accepting, rfl⟩ := currentMode?_eq_some reads
  have kind := written.ofLine_append isTail
  have head : arguments.head? ≠ some ShapeKeyword.point.name := fun same =>
    (written.tokens _ (List.mem_of_head? same)).ne_point rfl
  have known := keyword.ofLine?_name head
  have unsigned : ∀ keyword ∈ writtenKeywords, withoutSign keyword.name = keyword.name := by decide
  rw [importLine, kind, visible, if_neg Bool.false_ne_true]
  simp only [run_bind, get_run, pure_bind, accepting, if_true]
  rw [importShape_run]
  simp only [shapeResult, written.tokens_append isTail, unsigned _ written.known, known]
  exact Functor.map_map ..

theorem importLine_labelled {definition name label : Text} {keyword : ShapeKeyword} {arguments : List Text}
    {mode : PositionMode} {shape : Shape} (written : IsWritten definition keyword arguments)
    (labels : ((Definition.ofText (Writer.labelled definition name)).properties.get? "text".toList).getD [] = label)
    (visible : holds "global".toList name = false) (reads : state.currentMode? = some mode)
    (read : Shape.read mode keyword keyword.name arguments = .ok shape) (number : Int) :
    (importLine number (Writer.labelled definition name).trim).run.run state =
      (fun placed => added state (reported number keyword placed)) <$> (shape.place mode label state.fileId).run := by
  have isTail := isTail_nameTail name
  rw [labelled_eq_append] at labels ⊢
  rw [written.trim_append isTail, importLine_append written isTail ((holds_nameTail name).trans visible) reads, labels, read]
  rfl

theorem importLine_hidden {definition tail : Text} {keyword : ShapeKeyword} {arguments : List Text}
    (written : IsWritten definition keyword arguments) (isTail : IsTail tail) (hidden : holds "global".toList tail = true)
    (number : Int) : (importLine number (definition ++ tail)).run.run state = pure (.ok ⟨⟩, state) := by
  rw [importLine, written.ofLine_append isTail, hidden]
  rfl

/-- The line of a region adds the region as it is read again, unless its name hides it. -/
theorem importLine_written {region : Region} (writable : region.IsWritable) (named : IsWritableName region.name)
    (reads : state.currentMode? = some .pixels) (number : Int) : ∃ found,
      List.Forall₂ Region.Rereads ([region].filter (·.isKept)) found ∧
        (importLine number region.line.trim).run.run state = pure (.ok ⟨⟩, state.add ⟨found, []⟩) := by
  obtain ⟨keyword, arguments, written⟩ := Region.writtenAs_of_fits writable.fits
  have plain := written.plain writable
  have line := written.isWritten fun argument listed => (plain argument listed).isToken
  rw [Region.line]
  cases hidden : holds "global".toList region.name with
  | true =>
    have isTail := isTail_nameTail region.name
    have kept : region.isKept = false := congrArg (!·) hidden
    refine ⟨[], by simp [kept], ?_⟩
    rw [labelled_eq_append, line.trim_append isTail, importLine_hidden line isTail ((holds_nameTail _).trans hidden),
      ImportState.add_nil]
  | false =>
    obtain ⟨shape, region', read, placed, rereads⟩ := written.rereads writable.isDrawable plain state.fileId
    have kept : region.isKept = true := congrArg (!·) hidden
    refine ⟨[region'], by simpa [kept] using rereads, ?_⟩
    rw [importLine_labelled line (line.label_labelled named.closed) hidden reads read, placed]
    rfl

theorem importEach_written {regions : List Region} (writable : ∀ region ∈ regions, region.IsWritable)
    (named : ∀ region ∈ regions, IsWritableName region.name) (reads : state.currentMode? = some .pixels) (start : Nat) :
    ∃ found, List.Forall₂ Region.Rereads (regions.filter (·.isKept)) found ∧
      ((numbered start (regions.map (·.line))).forM fun line => importLine line.number line.text.trim).run.run state =
        pure (.ok ⟨⟩, state.add ⟨found, []⟩) := by
  -- A region leaves the mode as it was, so each line is read as the first one is.
  induction regions generalizing state start with
  | nil =>
    refine ⟨[], .nil, ?_⟩
    rw [ImportState.add_nil]
    rfl
  | cons region rest ih =>
    rw [List.forall_mem_cons] at writable named
    obtain ⟨first, rereads, run⟩ := importLine_written writable.1 named.1 reads start
    obtain ⟨further, rereads', run'⟩ := @ih (state.add ⟨first, []⟩) writable.2 named.2 reads (start + 1)
    refine ⟨first ++ further, ?_, ?_⟩
    · rw [← List.singleton_append, List.filter_append]
      exact List.rel_append rereads rereads'
    · rw [List.map_cons, numbered_cons, List.forM, run_bind, trim_trim, run, pure_bind]
      refine run'.trans ?_
      simp [ImportState.add]

theorem importHeader_run (fileId : Int) :
    ((numbered 1 Writer.pixelHeader).forM fun line => importLine line.number line.text.trim).run.run { fileId } =
      pure (.ok ⟨⟩, { fileId }) := by
  have kinds : Writer.pixelHeader.map (fun line => LineKind.ofLine line.trim.trim) = [.comment, .style, .frame] := by
    decide +kernel
  have pixel : Frame.ofKeyword (Frame.keywordOf (trim (trim "physical".toList))) = .pixel := by decide +kernel
  simp only [Writer.pixelHeader, List.map_cons, List.map_nil, List.cons.injEq] at kinds
  obtain ⟨comment, style, frame, _⟩ := kinds
  simp only [Writer.pixelHeader, numbered_cons, List.forM, importLine, comment, style, frame, declare, declareFrame, pixel]
  rfl

theorem importLines_pixelHeader (fileId : Int) (lines : List LogicalLine) :
    (importLines [] (numbered 1 Writer.pixelHeader ++ lines)).run.run { fileId } =
      (lines.forM fun line => importLine line.number line.text.trim).run.run { fileId } := by
  have each (lines : List LogicalLine) :
      importLines [] lines = lines.forM fun line => importLine line.number line.text.trim := rfl
  rw [each, List.forM_eq_forM, List.forM_append, run_bind, ← List.forM_eq_forM, importHeader_run, pure_bind]

/-- What is added to nothing without a question is the result of the import. -/
theorem ofText_of_run {fileId : Int} {text : Text} {part : ImportResult}
    (run : (importLines [] (logicalLinesFrom ';' 1 text)).run.run { fileId } =
      pure (.ok ⟨⟩, ({ fileId } : ImportState).add part)) : ofText fileId ({} : Settings).lineDelimiter text = pure part := by
  rw [ofText, show ({} : Settings).lineDelimiter = [';'] from rfl, logicalLines?_eq]
  simp only
  rw [start, run]
  rfl

end

theorem pixelHeader_undivided : ∀ line ∈ Writer.pixelHeader, (∀ c ∈ line, isLineBreak c = false) ∧ ';' ∉ line := by
  have plain : ∀ line ∈ Writer.pixelHeader, line.all (!isLineBreak ·) = true ∧ ';' ∉ line := by decide +kernel
  simpa using plain

/-- Each line of a file is one line for the import too. -/
theorem exported_lines_undivided {regions : List Region} (writable : ∀ region ∈ regions, region.IsWritable)
    (named : ∀ region ∈ regions, IsWritableName region.name) :
    ∀ line ∈ Writer.pixelHeader ++ regions.map (·.line), (∀ c ∈ line, isLineBreak c = false) ∧ ';' ∉ line := by
  refine List.forall_mem_append.mpr ⟨pixelHeader_undivided, List.forall_mem_map.mpr fun region listed => ?_⟩
  obtain ⟨keyword, arguments, written⟩ := Region.writtenAs_of_fits (writable region listed).fits
  have plain := written.plain (writable region listed)
  have line := written.isWritten fun argument listed => (plain argument listed).isToken
  exact ⟨line.isLineBreak_labelled (named region listed).single, line.undivided_labelled (named region listed).undivided⟩

/-- A file is written and read without a question, and nothing in it is complained of. -/
theorem exported_imported [UnitLibrary] (hasImage : Bool) (fileId : Int) {regions : List Region} (present : regions ≠ [])
    (writable : ∀ region ∈ regions, region.IsWritable) (named : ∀ region ∈ regions, IsWritableName region.name) :
    ∃ lines found, Writer.exported hasImage regions = pure lines ∧
      ofText fileId ({} : Settings).lineDelimiter lines.flatten = pure ⟨found, []⟩ ∧
        List.Forall₂ Region.Rereads (regions.filter (·.isKept)) found := by
  obtain ⟨found, rereads, run⟩ := @importEach_written { fileId } _ _ writable named rfl 4
  refine ⟨_, found, Writer.exported_eq hasImage present, ofText_of_run ?_, rereads⟩
  have undivided := exported_lines_undivided writable named
  have lines := @logicalLinesFrom_flatMap ';' (Writer.pixelHeader ++ regions.map (·.line)) 1
    (fun line listed => (undivided line listed).1) (fun line listed => (undivided line listed).2)
  rw [← List.flatMap_def, lines, numbered_append, importLines_pixelHeader]
  exact run

/-- The regions come back in their order, all but those whose names hide them. -/
theorem exported_keeps_regions [UnitLibrary] (hasImage : Bool) (fileId : Int) {regions : List Region} (present : regions ≠ [])
    (writable : ∀ region ∈ regions, region.IsWritable) (named : ∀ region ∈ regions, IsWritableName region.name) :
    ∃ lines found, Writer.exported hasImage regions = pure lines ∧
      ofText fileId ({} : Settings).lineDelimiter lines.flatten = pure ⟨found, []⟩ ∧
        found.map (fun region => (region.kind, region.name)) =
          (regions.filter (·.isKept)).map fun region => (region.kind, region.name) := by
  obtain ⟨lines, found, written, read, rereads⟩ := exported_imported hasImage fileId present writable named
  refine ⟨lines, found, written, read, ?_⟩
  have same : List.Forall₂ (· = ·) (found.map fun region => (region.kind, region.name))
      ((regions.filter (·.isKept)).map fun region => (region.kind, region.name)) := by
    rw [List.forall₂_map_left_iff, List.forall₂_map_right_iff]
    exact rereads.flip.imp fun _ _ rereads => Prod.ext rereads.kind rereads.name
  rwa [List.forall₂_eq_eq_eq] at same

section

open CommonUnits

theorem exported_keeps_named_regions :
    let regions : List Region := [⟨.point, [⟨1, 2⟩], 0, " a # b=\x7b,".toList, 0⟩,
      ⟨.rectangle, [⟨1, 2⟩, ⟨3, 4⟩], 45, "not global".toList, 0⟩, ⟨.polygon, [⟨0, 0⟩, ⟨4, 0⟩, ⟨0, 3⟩], 0, [], 0⟩]
    regions ≠ [] ∧ (∀ region ∈ regions, region.IsWritable) ∧ (∀ region ∈ regions, IsWritableName region.name) ∧
      ∃ lines found, Writer.exported false regions = pure lines ∧
        ofText 0 ({} : Settings).lineDelimiter lines.flatten = pure ⟨found, []⟩ ∧
          found.map (fun region => (region.kind, region.name)) =
            [(.point, " a # b=\x7b,".toList), (.polygon, [])] := by
  intro regions
  have present : regions ≠ [] := List.cons_ne_nil _ _
  have writable : ∀ region ∈ regions, region.IsWritable := by decide +kernel
  have named : ∀ region ∈ regions, IsWritableName region.name := by decide +kernel
  obtain ⟨lines, found, written, read, same⟩ := exported_keeps_regions false 0 present writable named
  exact ⟨present, writable, named, lines, found, written, read, same.trans (by decide +kernel)⟩

/-- A region is lost without a word when its name is the one that announces style defaults. -/
theorem exported_loses_region :
    let region : Region := ⟨.point, [⟨1, 2⟩], 0, "global".toList, 0⟩
    region.IsWritable ∧ IsWritableName region.name ∧ ∃ lines, Writer.exported false [region] = pure lines ∧
      ofText 0 ({} : Settings).lineDelimiter lines.flatten = pure ⟨[], []⟩ := by
  intro region
  have writable : region.IsWritable := by decide +kernel
  have named : IsWritableName region.name := by decide +kernel
  obtain ⟨lines, found, written, read, rereads⟩ := exported_imported false 0 (List.cons_ne_nil region [])
    (List.forall_mem_singleton.mpr writable) (List.forall_mem_singleton.mpr named)
  have hidden : [region].filter (·.isKept) = [] := by decide +kernel
  rw [hidden, List.forall₂_nil_left_iff] at rereads
  subst rereads
  exact ⟨writable, named, lines, written, read⟩

end

end Import

namespace Region

/-- A region without a name, with finite points, that is turned by whole degrees. -/
structure IsPlain (region : Region) : Prop where
  fits : region.kind.fits region.points.length = true
  x : ∀ point ∈ region.points, point.x.isFinite = true
  y : ∀ point ∈ region.points, point.y.isFinite = true
  rotation : ∃ degrees : Nat, degrees < 360 ∧ Floating.IsInt region.rotation degrees
  unnamed : region.name = []

instance (region : Region) : Decidable region.IsPlain :=
  decidable_of_iff (region.kind.fits region.points.length = true ∧ (∀ point ∈ region.points, point.x.isFinite = true) ∧
      (∀ point ∈ region.points, point.y.isFinite = true) ∧
        (∃ degrees : Nat, degrees < 360 ∧ Floating.IsInt region.rotation degrees) ∧ region.name = [])
    ⟨fun ⟨fits, x, y, rotation, unnamed⟩ => ⟨fits, x, y, rotation, unnamed⟩,
      fun plain => ⟨plain.fits, plain.x, plain.y, plain.rotation, plain.unnamed⟩⟩

theorem IsPlain.isWritable {region : Region} (plain : region.IsPlain) : region.IsWritable := by
  obtain ⟨degrees, turn, whole⟩ := plain.rotation
  exact ⟨plain.fits, plain.x, plain.y, whole.isFinite_convert (by omega)⟩

/-- The angle of an ellipse that is turned by whole degrees, or none if it is not positive. -/
theorem angleTexts_isInt {region : Region} {degrees : Int} (whole : Floating.IsInt region.rotation degrees)
    (small : degrees.natAbs < 2 ^ 22) :
    Floating.IsInt ((region.angleTexts.head?.map (·.number)).getD 0) (max 0 (degreesToHorizontal degrees)) := by
  have turned := toHorizontal_isInt whole (by omega)
  have bound : degreesToHorizontal degrees < 2 ^ 23 := by
    unfold degreesToHorizontal
    split <;> omega
  have positive := (Number.isInt_ofNat 0 (by decide)).below_iff turned
  rw [angleTexts]
  by_cases shown : Floating.below 0 (toHorizontal region.rotation) = true
  · have above : (0 : Int) < degreesToHorizontal degrees := positive.mp shown
    rw [if_pos shown, max_eq_right above.le]
    exact Number.number_angleText turned above.le bound
  · have under : ¬(0 : Int) < degreesToHorizontal degrees := mt positive.mpr shown
    rw [if_neg shown, max_eq_left (not_lt.mp under)]
    exact Number.isInt_ofNat 0 (by decide)

/-- Within one turn the angle of an ellipse is read as the rotation that it was written from. -/
theorem fromVertical_angleTexts {region : Region} {degrees : Nat} (whole : Floating.IsInt region.rotation degrees)
    (turn : degrees < 360) :
    Floating.IsInt (Shape.fromVertical ((region.angleTexts.head?.map (·.number)).getD 0)) degrees := by
  have inverse : degreesFromVertical (max 0 (degreesToHorizontal degrees)) = degrees := by
    unfold degreesToHorizontal degreesFromVertical
    split_ifs <;> omega
  have bound : (max 0 (degreesToHorizontal degrees)).natAbs < 2 ^ 52 := by
    unfold degreesToHorizontal
    split <;> omega
  have read := fromVertical_isInt (angleTexts_isInt whole (by omega)) bound
  rwa [inverse] at read

/-- How a plain region comes back: the same up to two places, but for the rotation where none is written. -/
structure Returns (region region' : Region) : Prop where
  kind : region'.kind = region.kind
  points : List.Forall₂ (fun point point' => IsReread point.x point'.x ∧ IsReread point.y point'.y)
    region.points region'.points
  box : region.kind = .rectangle → region'.rotation.same region.rotation = true
  flat : region.kind = .point ∨ region.kind = .polygon → region'.rotation = 0
  ellipse : region.kind = .ellipse → ∀ center size, region.points = [center, size] → size.x.same size.y = false →
    size.x.fixed 2 ≠ size.y.fixed 2 → region'.rotation.same region.rotation = true

theorem Rereads.returns {region region' : Region} (rereads : region.Rereads region') (plain : region.IsPlain) :
    region.Returns region' := by
  obtain ⟨degrees, turn, whole⟩ := plain.rotation
  refine ⟨rereads.kind, rereads.points, fun box => ?_, rereads.flat, fun ellipse center size points unequal differ => ?_⟩
  · rw [rereads.box box]
    exact (Number.number_angleText whole (by omega) (by omega)).same whole
  · rw [rereads.ellipse ellipse center size points unequal differ]
    exact (fromVertical_angleTexts whole turn).same whole

end Region

namespace Import

/-- Writing and reading plain regions are inverse up to two places. -/
theorem exported_returns_plain [UnitLibrary] (hasImage : Bool) (fileId : Int) {regions : List Region} (present : regions ≠ [])
    (plain : ∀ region ∈ regions, region.IsPlain) : ∃ lines found, Writer.exported hasImage regions = pure lines ∧
      ofText fileId ({} : Settings).lineDelimiter lines.flatten = pure ⟨found, []⟩ ∧
        List.Forall₂ Region.Returns regions found := by
  have named : ∀ region ∈ regions, IsWritableName region.name := by
    intro region listed
    rw [(plain region listed).unnamed]
    exact ⟨nofun, nofun, nofun⟩
  have kept : regions.filter (·.isKept) = regions := by
    refine List.filter_eq_self.mpr fun region listed => ?_
    rw [Region.isKept, (plain region listed).unnamed]
    rfl
  obtain ⟨lines, found, written, read, rereads⟩ :=
    exported_imported hasImage fileId present (fun region listed => (plain region listed).isWritable) named
  rw [kept] at rereads
  refine ⟨lines, found, written, read, ?_⟩
  exact ((List.forall₂_and_left _ _).mpr ⟨plain, rereads⟩).imp fun _ _ both => both.2.returns both.1

section

open CommonUnits

theorem exported_returns_each_kind :
    let regions : List Region := [⟨.point, [⟨1, -2⟩], 90, [], 0⟩, ⟨.rectangle, [⟨1, 2⟩, ⟨3, 4⟩], 359, [], 0⟩,
      ⟨.ellipse, [⟨1, 2⟩, ⟨3, 4⟩], 300, [], 0⟩, ⟨.polygon, [⟨0, 0⟩, ⟨4, 0⟩, ⟨0, 3⟩], 0, [], 0⟩]
    regions ≠ [] ∧ (∀ region ∈ regions, region.IsPlain) ∧ ∃ lines found, Writer.exported true regions = pure lines ∧
      ofText 7 ({} : Settings).lineDelimiter lines.flatten = pure ⟨found, []⟩ ∧
        List.Forall₂ Region.Returns regions found := by
  intro regions
  have present : regions ≠ [] := List.cons_ne_nil _ _
  have plain : ∀ region ∈ regions, region.IsPlain := by decide +kernel
  exact ⟨present, plain, exported_returns_plain true 7 present plain⟩

end

end Import
end SkyRegion
