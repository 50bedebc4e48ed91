import SkyRegion.Proofs.PlacingTrace
import SkyRegion.Proofs.QuietHeader
import SkyRegion.Proofs.Reimport
import SkyRegion.Proofs.SkyText

/-! Files written on the sky and read there. The header declares the frame of the image that the file was written for,
and every region comes back after the questions that its printed numbers give rise to: one for each position in that
frame, in degrees, and then one for each length along its axis, in arcseconds. -/

namespace SkyRegion

open Image Text

/-- An image of a frame on the sky, on which positions and lengths are their own pixels. -/
def Image.celestial (frame : Frame) : Image where
  answer _
    | .hasSkyFrame => .ok true
    | .skyFrameName => .ok frame.name
    | .hasLinearFrame => .ok false
    | .toPixel _ x y => .ok (some (x.value, y.value))
    | .toPixelLength length _ => .ok length.value
    | .toWorld x y => .ok (⟨x, .degree⟩, ⟨y, .degree⟩)
    | .toWorldLength length _ => .ok ⟨length, .arcsecond⟩

theorem Image.celestial_namesFrame (frame : Frame) : (celestial frame).NamesFrame := fun _ => ⟨frame.name, rfl⟩

theorem Image.celestial_acceptsConversions (frame : Frame) : (celestial frame).AcceptsConversions :=
  ⟨fun _ _ x y => ⟨(x.value, y.value), rfl⟩, fun _ length _ => ⟨length.value, rfl⟩⟩

/-- The work comes to a value, with questions that go with it. -/
def Placing.Puts (work : Placing α) (image : Image) (post : α → List Query → Prop) : Prop :=
  work.run.Converts image fun result queries => ∃ value, result = .ok value ∧ post value queries

namespace Shape

variable {image : Image} (frame : Frame)

theorem isConversion_questions (shape : Shape) : ∀ query ∈ shape.questions frame, query.isConversion = true := by
  intro query listed
  rcases List.mem_append.mp listed with listed | listed
  · obtain ⟨position, _, rfl⟩ := List.mem_map.mp listed
    rfl
  · obtain ⟨length, _, rfl⟩ := List.mem_map.mp listed
    rfl

theorem grantsAll_questions (accepts : image.AcceptsConversions) (asked : List Query) (shape : Shape) :
    image.grantsAll asked (shape.questions frame) = true := by
  refine grantsAll_of_forall fun before query listed => ?_
  rcases List.mem_append.mp listed with listed | listed
  · obtain ⟨position, _, rfl⟩ := List.mem_map.mp listed
    obtain ⟨pixel, replied⟩ := accepts.places before frame position.x position.y
    rw [grants, replied]
  · obtain ⟨⟨length, axis⟩, _, rfl⟩ := List.mem_map.mp listed
    obtain ⟨pixels, replied⟩ := accepts.measures before length axis
    rw [grants, replied]

/-- A complete shape is placed, and only the questions of the shape are put. -/
theorem place_puts (accepts : image.AcceptsConversions) {shape : Shape} (complete : shape.IsComplete) (label : Text)
    (fileId : Int) : (shape.place (.sky frame) label fileId).Puts image fun region queries =>
      region.kind = shape.kind ∧ queries = shape.questions frame := by
  intro asked
  obtain ⟨log, outcome⟩ := place_follows accepts.answers frame complete label fileId asked
  have granted := grantsAll_questions frame accepts asked shape
  have each : conversions (shape.questions frame) = shape.questions frame :=
    List.filter_eq_self.mpr (isConversion_questions frame shape)
  refine ⟨shape.questions frame, by rw [log, put_of_grantsAll granted, conversions_append, each], ?_⟩
  cases result : ((shape.place (.sky frame) label fileId).run.run image asked).1 with
  | error setback =>
    rw [result] at outcome
    exact absurd (outcome.1.symm.trans granted) Bool.false_ne_true
  | ok region =>
    rw [result] at outcome
    obtain ⟨_, points, rfl⟩ := outcome
    exact ⟨_, rfl, rfl, rfl⟩

end Shape

/-- The question where a position is, by its printed degrees. -/
def Query.Locates (frame : Frame) (position : Position) (query : Query) : Prop :=
  ∃ x y, query = .toPixel frame ⟨x, .degree⟩ ⟨y, .degree⟩ ∧ position.x.IsPrintedAs 6 .degree x ∧
    position.y.IsPrintedAs 6 .degree y

/-- The question how long a length is along an axis, by its printed arcseconds. -/
def Query.Measures (length : Quantity × Axis) (query : Query) : Prop :=
  ∃ value, query = .toPixelLength ⟨value, .arcsecond⟩ length.2 ∧ length.1.IsPrintedAs 4 .arcsecond value

namespace Addition

/-- The questions that place an addition: one for each position, and then one for each length along its axis. -/
def IsAskedBy (frame : Frame) (addition : Addition) (queries : List Query) : Prop :=
  ∃ places sizes, queries = places ++ sizes ∧
    List.Forall₂ (Query.Locates frame) (Shape.pairUp addition.positions) places ∧
      List.Forall₂ Query.Measures (addition.lengths.zip [.horizontal, .vertical]) sizes

variable {addition : Addition} {keyword : ShapeKeyword} {arguments : List Text} (frame : Frame)

theorem pairUp_vertices (vertices : List (Quantity × Quantity)) :
    Shape.pairUp (vertices.flatMap fun vertex => [vertex.1, vertex.2]) = vertices.map fun vertex => ⟨vertex.1, vertex.2⟩ := by
  induction vertices with
  | nil => rfl
  | cons vertex rest ih => exact congrArg _ ih

theorem locates {position : Position} (x : position.x.IsFiniteIn .degree) (y : position.y.IsFiniteIn .degree) :
    Query.Locates frame position
      (.toPixel frame ⟨position.x.degrees.number, .degree⟩ ⟨position.y.degrees.number, .degree⟩) :=
  ⟨_, _, rfl, x.isPrintedAs 5, y.isPrintedAs 5⟩

theorem isAskedBy_centered {x y width height : Quantity} {first second : Number} (other : addition.kind ≠ .polygon)
    (quantities : addition.quantities = [x, y, width, height]) (xFinite : x.IsFiniteIn .degree)
    (yFinite : y.IsFiniteIn .degree) (across : width.IsPrintedAs 4 .arcsecond first)
    (up : height.IsPrintedAs 4 .arcsecond second) : addition.IsAskedBy frame
      [.toPixel frame ⟨x.degrees.number, .degree⟩ ⟨y.degrees.number, .degree⟩,
        .toPixelLength ⟨first, .arcsecond⟩ .horizontal, .toPixelLength ⟨second, .arcsecond⟩ .vertical] := by
  refine ⟨[_], [_, _], rfl, ?_, ?_⟩
  · rw [Addition.positions, if_neg other, quantities]
    exact .cons (locates frame xFinite yFinite) .nil
  · rw [Addition.lengths, if_neg other, quantities]
    exact .cons ⟨_, rfl, across⟩ (.cons ⟨_, rfl, up⟩ .nil)

/-- What is written is read as a shape of the same kind, with the questions of its printed numbers. -/
theorem WrittenAs.read [UnitLibrary] (written : addition.WrittenAs keyword arguments) (writable : addition.IsWritable) :
    ∃ shape, Shape.read (.sky frame) keyword keyword.name arguments = .ok shape ∧ shape.kind = addition.kind ∧
      addition.IsAskedBy frame (shape.questions frame) := by
  have angle := writable.angle_isNumberText
  cases written with
  | @point x y kind quantities =>
    have other : addition.kind ≠ .polygon := by simp [kind]
    obtain ⟨x, y⟩ := writable.position other quantities
    refine ⟨_, Shape.readPoint_of_readsAs x.degrees_isNumberText.readsAs y.degrees_isNumberText.readsAs
      x.degrees_isNumberText.isToken.ne_point, kind.symm, [_], [], rfl, ?_, ?_⟩
    · rw [Addition.positions, if_neg other, quantities]
      exact .cons (locates frame x y) .nil
    · rw [Addition.lengths, if_neg other, quantities]
      exact .nil
  | @box x y width height kind quantities =>
    have other : addition.kind ≠ .polygon := by simp [kind]
    obtain ⟨x, y, width, height⟩ := writable.centered other quantities
    have read := Shape.readCentered_angled (.sky frame) ShapeKeyword.box.name x.degrees_isNumberText.readsAs
      y.degrees_isNumberText.readsAs width.arcseconds_isNumberText.readsAs_arcseconds
      height.arcseconds_isNumberText.readsAs_arcseconds angle.readsAs
    exact ⟨_, congrArg (· >>= _) read, kind.symm,
      isAskedBy_centered frame other quantities x y (width.isPrintedAs 3) (height.isPrintedAs 3)⟩
  | @circle x y width height kind quantities equal =>
    have other : addition.kind ≠ .polygon := by simp [kind]
    have lengths : addition.lengths = [width, height] := by
      rw [Addition.lengths, if_neg other, quantities]
      rfl
    have units := writable.radii kind width (by simp [lengths]) height (by simp [lengths])
    obtain ⟨x, y, width, height⟩ := writable.centered other quantities
    -- Only the width is written, and both lengths are measured by it.
    have both := height.isPrintedAs_of_same width (width.numberIn_same units equal) 3
    exact ⟨_, Shape.readCircle_of_readsAs x.degrees_isNumberText.readsAs y.degrees_isNumberText.readsAs
      width.arcseconds_isNumberText.readsAs_arcseconds, kind.symm,
      isAskedBy_centered frame other quantities x y (width.isPrintedAs 3) both⟩
  | @ellipse x y width height kind quantities unequal =>
    have other : addition.kind ≠ .polygon := by simp [kind]
    obtain ⟨x, y, width, height⟩ := writable.centered other quantities
    exact ⟨_, Shape.readEllipse_angled x.degrees_isNumberText.readsAs
      y.degrees_isNumberText.readsAs width.arcseconds_isNumberText.readsAs_arcseconds
      height.arcseconds_isNumberText.readsAs_arcseconds angle.readsAs, kind.symm,
      isAskedBy_centered frame other quantities x y (width.isPrintedAs 3) (height.isPrintedAs 3)⟩
  | @polygon vertices kind quantities enough =>
    have finite := writable.vertex kind quantities
    have read := @Shape.readPolygon_of_readsAs _ (.sky frame) _ vertices _ _
      (fun vertex place => ⟨vertex.1.degrees.number, place⟩) (fun vertex place => ⟨vertex.2.degrees.number, place⟩)
      (fun vertex listed =>
        ⟨(finite vertex listed).1.degrees_isNumberText.readsAs, (finite vertex listed).2.degrees_isNumberText.readsAs⟩) enough
    refine ⟨_, read, kind.symm, _, [], rfl, ?_, ?_⟩
    · rw [Addition.positions, if_pos kind, quantities, pairUp_vertices, Shape.positions, List.map_map,
        List.forall₂_map_left_iff, List.forall₂_map_right_iff, List.forall₂_same]
      exact fun vertex listed => locates frame (finite vertex listed).1 (finite vertex listed).2
    · rw [Addition.lengths, if_pos kind]
      exact .nil

/-- The line that the addition is written on. -/
def line (addition : Addition) : Text :=
  (QuantityStyle.definition .sky addition.kind addition.quantities addition.angle).toOption.getD []

namespace IsWritable

theorem definition_eq (writable : addition.IsWritable) :
    QuantityStyle.definition .sky addition.kind addition.quantities addition.angle = .ok addition.line := by
  obtain ⟨keyword, arguments, written⟩ := writtenAs_of_fits writable.fits
  obtain ⟨definition, defined, _⟩ := written.isWritten writable
  rw [line, defined]
  rfl

theorem isWritten_line (writable : addition.IsWritable) :
    ∃ keyword arguments, addition.WrittenAs keyword arguments ∧ IsWritten addition.line keyword arguments := by
  obtain ⟨keyword, arguments, written⟩ := writtenAs_of_fits writable.fits
  obtain ⟨definition, defined, line⟩ := written.isWritten writable
  obtain rfl := Except.ok.inj (writable.definition_eq.symm.trans defined)
  exact ⟨keyword, arguments, written, line⟩

end IsWritable

/-- A region comes of the addition, by the questions that place it. -/
structure Comes (frame : Frame) (addition : Addition) (placed : Region × List Query) : Prop where
  kind : placed.1.kind = addition.kind
  asked : addition.IsAskedBy frame placed.2

end Addition

namespace Writer

theorem addQuantities_sky {writer : Writer} (sky : writer.style = .sky) {addition : Addition}
    (writable : addition.IsWritable) :
    writer.addQuantities addition.kind addition.quantities addition.angle [] = .ok (writer.append addition.line []) := by
  rw [addQuantities, writable.fits, sky, writable.definition_eq]
  rfl

theorem foldlM_addQuantities {writer : Writer} (sky : writer.style = .sky) {additions : List Addition}
    (writable : ∀ addition ∈ additions, addition.IsWritable) :
    additions.foldlM (fun writer addition =>
      writer.addQuantities addition.kind addition.quantities addition.angle []) writer =
        .ok { writer with
          lines := writer.lines ++ (additions.map (·.line)).map (· ++ ['\n']), count := writer.count + additions.length } := by
  induction additions generalizing writer with
  | nil => simp [pure, Except.pure]
  | cons addition rest ih =>
    rw [List.forall_mem_cons] at writable
    rw [List.foldlM_cons, addQuantities_sky sky writable.1]
    refine (@ih (writer.append addition.line []) sky writable.2).trans ?_
    simp [append, labelled_nil, Nat.add_assoc, Nat.add_comm 1]

end Writer

namespace Import

variable {image : Image} {state : ImportState} {frame : Frame}

/-- On the sky the line of an addition adds a region. -/
theorem importLine_addition [UnitLibrary] (accepts : image.AcceptsConversions) {addition : Addition}
    (writable : addition.IsWritable) (reads : state.currentMode? = some (.sky frame)) (number : Int) :
    ((importLine number addition.line.trim).run.run state).Converts image fun outcome queries =>
      ∃ region, addition.Comes frame (region, queries) ∧ outcome = (.ok ⟨⟩, state.add ⟨[region], []⟩) := by
  obtain ⟨keyword, arguments, written, line⟩ := writable.isWritten_line
  obtain ⟨shape, read, kind, asked⟩ := written.read frame writable
  have run := importLine_labelled line (line.label_labelled List.not_mem_nil) (by decide) reads read number
  rw [labelled_nil] at run
  rw [run]
  have placed := Shape.place_puts frame accepts (Shape.isComplete_of_read read) [] state.fileId
  refine .map (Dialogue.Converts.mono placed ?_)
  rintro _ _ ⟨region, rfl, same, rfl⟩
  exact ⟨region, ⟨same.trans kind, asked⟩, rfl⟩

theorem importEach_additions [UnitLibrary] (accepts : image.AcceptsConversions) {additions : List Addition}
    (writable : ∀ addition ∈ additions, addition.IsWritable) (reads : state.currentMode? = some (.sky frame))
    (start : Nat) : (((numbered start (additions.map (·.line))).forM fun line =>
      importLine line.number line.text.trim).run.run state).Converts image fun outcome queries =>
        ∃ placed, List.Forall₂ (Addition.Comes frame) additions placed ∧ queries = placed.flatMap (·.2) ∧
          outcome = (.ok ⟨⟩, state.add ⟨placed.map (·.1), []⟩) := by
  induction additions generalizing state start with
  | nil => exact .pure ⟨[], .nil, rfl, by rw [List.map_nil, ← ImportResult.empty, ImportState.add_empty]⟩
  | cons addition rest ih =>
    rw [List.forall_mem_cons] at writable
    rw [List.map_cons, numbered_cons, List.forM, run_bind, trim_trim]
    refine .bind (importLine_addition accepts writable.1 reads start) ?_
    rintro _ queries ⟨region, comes, rfl⟩
    refine (@ih (state.add ⟨[region], []⟩) writable.2 reads (start + 1)).mono ?_
    rintro _ _ ⟨placed, each, rfl, rfl⟩
    exact ⟨(region, queries) :: placed, .cons comes each, rfl, by simp [ImportState.add]⟩

theorem declares_frameLine {frame : Frame} (celestial : frame ∈ [.j2000, .b1950, .galactic, .ecliptic, .icrs]) :
    Frame.writtenKeyword frame.name ≠ [] ∧
      Declares (Writer.frameLine (Frame.writtenKeyword frame.name)) (.sky frame) := by
  have each : ∀ frame ∈ [Frame.j2000, .b1950, .galactic, .ecliptic, .icrs],
      Frame.writtenKeyword frame.name ≠ [] ∧
        Declares (Writer.frameLine (Frame.writtenKeyword frame.name)) (.sky frame) := by decide +kernel
  exact each frame celestial

/-- Each line of a file on the sky is one line for the import too. -/
theorem additions_lines_undivided {additions : List Addition} (writable : ∀ addition ∈ additions, addition.IsWritable) :
    ∀ line ∈ additions.map (·.line), (∀ c ∈ line, isLineBreak c = false) ∧ ';' ∉ line := by
  refine List.forall_mem_map.mpr fun addition listed => ?_
  obtain ⟨keyword, arguments, _, line⟩ := (writable addition listed).isWritten_line
  rw [← labelled_nil addition.line]
  exact ⟨line.isLineBreak_labelled nofun, line.undivided_labelled List.not_mem_nil⟩

section

open CommonUnits

end

end Import
end SkyRegion
