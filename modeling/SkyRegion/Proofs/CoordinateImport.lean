import SkyRegion.CommonUnits.Library
import SkyRegion.Proofs.LinearExchange
import SkyRegion.Proofs.Returning
import SkyRegion.Proofs.SkyDeclarations
import SkyRegion.Proofs.Unplaced
import SkyRegion.Sky.Image

/-! Imports on images with coordinates. An image may have celestial axes of a system that is not known; then there is no
name for its frame, and the first declaration of a sky frame ends the import. -/

namespace SkyRegion

open Image Text

/-- The name of its frame can never be had from an image. -/
def Image.RefusesFrame (image : Image) : Prop :=
  frameName.run.Ensures image fun named => ∃ fault, named = .error fault

namespace Sky

namespace Coordinates

variable {coordinates : Coordinates}

/-- The celestial axes, if there are any, are those of a known system. -/
def namesFrame (coordinates : Coordinates) : Bool :=
  match coordinates.axes with
  | .celestial axes => axes.system.isOk
  | .linear _ => true

theorem toImage_namesFrame (named : coordinates.namesFrame = true) : coordinates.toImage.NamesFrame := by
  obtain ⟨types, axes, increments⟩ := coordinates
  cases axes with
  | linear axes =>
    have lacks : (toImage ⟨types, .linear axes, increments⟩).LacksSky := ⟨fun _ => rfl, fun _ => ⟨_, rfl⟩⟩
    exact lacks.namesFrame
  | celestial axes =>
    obtain ⟨system, pixel, direction⟩ := axes
    cases system with
    | error reason => cases named
    | ok system => exact fun _ => ⟨system.frameName, rfl⟩

theorem toImage_refusesFrame (unnamed : coordinates.namesFrame = false) : coordinates.toImage.RefusesFrame := by
  obtain ⟨types, axes, increments⟩ := coordinates
  cases axes with
  | linear axes => cases unnamed
  | celestial axes =>
    obtain ⟨system, pixel, direction⟩ := axes
    cases system with
    | error reason => exact fun _ => ⟨.refused reason, rfl⟩
    | ok system => cases unnamed

/-- Whatever keeps a position from its pixel is a refusal of the position, for its type, its value or its units. -/
def RefusesPositions (coordinates : Coordinates) : Prop :=
  ∀ axes, coordinates.axes = .celestial axes → ∀ frame x y fault, axes.pixel frame x y = .error fault →
    fault.isRefusal = true

theorem exists_place (refuses : coordinates.RefusesPositions) (frame : Frame) (x y : Quantity) :
    ∃ pixel?, coordinates.place frame x y = .ok pixel? := by
  rw [place, placeOnSky]
  split
  · exact ⟨_, rfl⟩
  cases found : coordinates.axes with
  | linear axes => exact ⟨none, rfl⟩
  | celestial axes =>
    dsimp only
    split
    · cases placed : axes.pixel frame x y with
      | ok pixel => exact ⟨_, rfl⟩
      | error fault => exact ⟨none, if_pos (refuses axes found frame x y fault placed)⟩
    · exact ⟨none, rfl⟩

theorem exists_increment (coordinates : Coordinates) (axis : Image.Axis) :
    ∃ increment, coordinates.increment axis.index = .ok increment := by
  cases axis <;> exact ⟨_, rfl⟩

/-- A length is refused only because its unit measures something else than the axis. -/
theorem pixelLength_answers (coordinates : Coordinates) (length : Quantity) (axis : Image.Axis) :
    (∃ pixels, coordinates.pixelLength length axis.index = .ok pixels) ∨
      ∃ fault, coordinates.pixelLength length axis.index = .error fault ∧ fault.isRefusal = true := by
  obtain ⟨⟨increment, unit⟩, measured⟩ := coordinates.exists_increment axis
  by_cases pixel : length.unit = .pixel
  · exact .inl ⟨length.value, if_pos pixel⟩
  rw [pixelLength, if_neg pixel, measured]
  by_cases bare : unit = .one
  · exact .inl ⟨_, if_pos bare⟩
  cases converted : length.valueIn? unit with
  | some value =>
    refine .inl ⟨value / increment, (if_neg bare).trans ?_⟩
    rw [converted]
    rfl
  | none =>
    refine .inr ⟨.incompatible length.unit unit, (if_neg bare).trans ?_, rfl⟩
    rw [converted]
    rfl

theorem toImage_answersConversions (refuses : coordinates.RefusesPositions) : coordinates.toImage.AnswersConversions where
  places _ := exists_place refuses
  measures _ := coordinates.pixelLength_answers

/-- The pixel of a position, or none if the position has no pixel. -/
def pixel? (coordinates : Coordinates) (frame : Frame) (x y : Quantity) : Option (Number × Number) :=
  (coordinates.place frame x y).toOption.join

theorem toImage_placesBy (refuses : coordinates.RefusesPositions) : coordinates.toImage.PlacesBy coordinates.pixel? := by
  intro asked frame x y
  obtain ⟨pixel?, placed⟩ := exists_place refuses frame x y
  change coordinates.place frame x y = .ok (coordinates.place frame x y).toOption.join
  rw [placed]
  rfl

end Coordinates

theorem HeaderImage.refusesPositions (image : HeaderImage) : image.coordinates.RefusesPositions := by
  obtain ⟨header, world⟩ := image
  intro axes found frame x y fault refused
  cases world with
  | linear first second => cases found
  | celestial pair system =>
    cases found
    simp only [Celestial.toAxes, Option.elim] at refused
    split at refused
    · cases refused
    · cases refused
      rfl

end Sky

namespace Import

variable {image : Image} {state : ImportState} {line : Text}

section

variable [UnitLibrary]

theorem importLine_refused (refuses : image.RefusesFrame) (unknown : state.imageFrame = [])
    (sky : declaresSky line = true) (number : Int) :
    ((importLine number line).run.run state).Ensures image fun outcome => Fails outcome.1 := by
  rw [declaresSky, Bool.and_eq_true, decide_eq_true_eq] at sky
  obtain ⟨kind, sky⟩ := sky
  have asks : (state.declared (Frame.ofKeyword (Frame.keywordOf line))).imageFrame.isEmpty = true :=
    List.isEmpty_iff.mpr unknown
  simp only [importLine, kind, declare_run_sky sky, learnFrame_run, asks, if_true]
  refine .map (Dialogue.Ensures.mono refuses ?_)
  rintro _ ⟨fault, rfl⟩
  trivial

/-- On an image without a name for its frame an import is stopped at the first declaration of a sky frame, if no
excessive token stops it before. -/
theorem importEach_refused (refuses : image.RefusesFrame) (answers : image.AnswersConversions) (lines : List LogicalLine)
    (unknown : state.imageFrame = []) :
    ((lines.forM fun line => importLine line.number line.text.trim).run.run state).Ensures image fun outcome =>
      Fails outcome.1 ↔ (∃ line ∈ lines, declaresSky line.text.trim = true) ∨ StopsAmong state.currentMode? lines := by
  induction lines generalizing state with
  | nil =>
    refine .pure (iff_of_false id ?_)
    rintro (⟨_, impossible, _⟩ | ⟨before, _, _, impossible, _⟩)
    · exact List.not_mem_nil impossible
    · simp at impossible
  | cons line rest ih =>
    rw [List.forM, run_bind]
    simp only [stopsAmong_cons, List.exists_mem_cons_iff]
    cases sky : declaresSky line.text.trim with
    | true =>
      refine Dialogue.Ensures.bind (importLine_refused refuses unknown sky line.number) ?_
      rintro ⟨interruption | _, after⟩ fails
      · exact .pure (iff_of_true trivial (.inl (.inl rfl)))
      · exact fails.elim
    | false =>
      rw [importLine_run sky, bind_map_left]
      refine Dialogue.Ensures.bind (lineResult_ensures answers state.currentMode? state.fileId line.number line.text.trim) ?_
      rintro (interruption | part) fails
      · exact .pure (iff_of_true trivial (.inr (.inl (fails.mp trivial))))
      · have passes : ¬Stops state.currentMode? line.text.trim := fun stops => fails.mpr stops
        have further := @ih ((state.before line.text.trim).add part) ((ImportState.imageFrame_before ..).trans unknown)
        rw [ImportState.currentMode?_add, currentMode?_before] at further
        refine further.mono fun outcome failed => failed.trans ?_
        simp [passes]

/-- The lines of a text that comes from the usual delimiter, in order. -/
theorem imported_run {text : Text} {lines : List LogicalLine}
    (split : logicalLines? ({} : Settings).lineDelimiter text = some lines) (asked : List Query) (fileId : Int) :
    imported image asked fileId text = (start fileId (importLines [] lines)).run.run image asked := by
  rw [imported, ofText, split]

variable {coordinates : Sky.Coordinates}

/-- An import is stopped by an excessive token, or by the first declaration of a sky frame if the system of the axes is
not known. -/
theorem importLines_fails_iff (refuses : coordinates.RefusesPositions) (fileId : Int) (lines : List LogicalLine) :
    ((importLines [] lines).run.run { fileId }).Ensures coordinates.toImage fun outcome => Fails outcome.1 ↔
      (coordinates.namesFrame = false ∧ ∃ line ∈ lines, declaresSky line.text.trim = true) ∨
        StopsAmong (some .pixels) lines := by
  have answers := Sky.Coordinates.toImage_answersConversions refuses
  cases named : coordinates.namesFrame with
  | true =>
    have names := Sky.Coordinates.toImage_namesFrame named
    refine (importEach_ensures names answers lines { fileId }).mono fun outcome fails => fails.trans ?_
    simp [ImportState.currentMode?, ImportState.mode]
  | false =>
    have unnamed := Sky.Coordinates.toImage_refusesFrame named
    refine (importEach_refused unnamed answers lines rfl).mono fun outcome fails => fails.trans ?_
    simp [ImportState.currentMode?, ImportState.mode]

theorem imported_returns_iff (refuses : coordinates.RefusesPositions) (fileId : Int) (text : Text) (asked : List Query) :
    (∃ result, (imported coordinates.toImage asked fileId text).1 = .ok result) ↔
      ∀ before line after, logicalLines? ({} : Settings).lineDelimiter text = some (before ++ line :: after) →
        (declaresSky line.text.trim = true → coordinates.namesFrame = true) ∧
          (LineKind.ofLine line.text.trim = .shape → isSupported (latestDeclaration? (before.map (·.text))) = true →
            ¬IsExcessive line.text.trim) := by
  obtain ⟨lines, split⟩ := logicalLines?_isSome text (List.cons_ne_nil ';' [])
  have fails := importLines_fails_iff refuses fileId lines asked
  rw [imported_run split, start_returns_iff]
  refine (not_congr fails).trans ⟨fun safe before line after equal => ?_, ?_⟩
  · cases split.symm.trans equal
    constructor
    · intro sky
      by_contra unnamed
      exact safe (.inl ⟨Bool.eq_false_iff.mpr unnamed, line, by simp, sky⟩)
    · intro kind supported excessive
      have stops := (stops_modeAfterAll_iff before line.text.trim).mpr ⟨kind, supported, excessive⟩
      exact safe (.inr ⟨before, line, after, rfl, stops⟩)
  · rintro safe (⟨unnamed, line, listed, sky⟩ | ⟨before, line, after, rfl, stops⟩)
    · obtain ⟨before, after, rfl⟩ := List.append_of_mem listed
      have named := (safe before line after split).1 sky
      rw [named] at unnamed
      cases unnamed
    · obtain ⟨kind, supported, excessive⟩ := (stops_modeAfterAll_iff before line.text.trim).mp stops
      exact (safe before line after split).2 kind supported excessive

/-- The issue about a shape that was read on a line, a position of which has no pixel. -/
def unplacedIssue (line : LogicalLine) (keyword : ShapeKeyword) (shape : Shape) : Issue :=
  ⟨line.number, keyword.name, .conversion, (Complaint.notPlaced shape.name).message⟩

theorem unplacedIssue_mem (refuses : coordinates.RefusesPositions) (names : coordinates.toImage.NamesFrame) {text : Text}
    {before after : List LogicalLine} {line : LogicalLine}
    (split : logicalLines? ({} : Settings).lineDelimiter text = some (before ++ line :: after)) {frame : Frame}
    (mode : modeAfterAll (some .pixels) before = some (.sky frame)) {keyword : ShapeKeyword} {shape : Shape}
    (reads : ReadsShape (.sky frame) line.text.trim keyword shape)
    (unplaced : ∃ position ∈ shape.positions, coordinates.place frame position.x position.y = .ok none)
    {asked : List Query} {fileId : Int} {result : ImportResult}
    (returned : (imported coordinates.toImage asked fileId text).1 = .ok result) :
    unplacedIssue line keyword shape ∈ result.issues := by
  have places := Sky.Coordinates.toImage_placesBy refuses
  have ignores : coordinates.toImage.IgnoresFrameQueries := ignoresFrameQueries_of_steady _
  have lacks : ∃ position ∈ shape.positions, coordinates.pixel? frame position.x position.y = none := by
    obtain ⟨position, listed, unplaced⟩ := unplaced
    exact ⟨position, listed, by rw [Sky.Coordinates.pixel?, unplaced]; rfl⟩
  have adds := lineResult_unplaced places reads lacks fileId line.number
  rw [← mode] at adds
  have whole := start_matches (importLines_matches names ignores fileId [] (before ++ line :: after))
  simp only [initialResult, initialMode?, List.isEmpty_nil, if_true, ImportResult.empty_append, id_map'] at whole
  rw [imported_run split, (whole asked asked rfl).1] at returned
  refine linesResult_mem (adds.mono fun _ added => ⟨_, added, ?_⟩) asked result returned
  exact List.mem_singleton_self _

/-- An import comes to its result unless it declares a sky frame where the system of the axes is not known, or comes upon
an excessive token; and positions that the image cannot place become issues. -/
theorem imported_onCoordinates (refuses : coordinates.RefusesPositions) (fileId : Int) (text : Text) (asked : List Query) :
    ((∃ result, (imported coordinates.toImage asked fileId text).1 = .ok result) ↔
      ∀ before line after, logicalLines? ({} : Settings).lineDelimiter text = some (before ++ line :: after) →
        (declaresSky line.text.trim = true → coordinates.namesFrame = true) ∧
          (LineKind.ofLine line.text.trim = .shape → isSupported (latestDeclaration? (before.map (·.text))) = true →
            ¬IsExcessive line.text.trim)) ∧
    ∀ result, (imported coordinates.toImage asked fileId text).1 = .ok result → ∀ before line after frame keyword shape,
      logicalLines? ({} : Settings).lineDelimiter text = some (before ++ line :: after) →
        declaredMode? (latestDeclaration? (before.map (·.text))) = some (.sky frame) →
          ReadsShape (.sky frame) line.text.trim keyword shape →
            (∃ position ∈ shape.positions, coordinates.place frame position.x position.y = .ok none) →
              unplacedIssue line keyword shape ∈ result.issues := by
  refine ⟨imported_returns_iff refuses fileId text asked, ?_⟩
  intro result returned before line after frame keyword shape equal mode read unplaced
  rw [← modeAfterAll_eq] at mode
  -- Positions are on the sky because of a declaration before the line, so the system of the axes is known.
  obtain ⟨declaration, listed, sky⟩ := exists_declaresSky mode
  obtain ⟨earlier, between, rfl⟩ := List.append_of_mem listed
  have safe := (imported_returns_iff refuses fileId text asked).mp ⟨result, returned⟩
  have named := (safe earlier declaration (between ++ line :: after) (by simpa using equal)).1 sky
  have names := Sky.Coordinates.toImage_namesFrame named
  exact unplacedIssue_mem refuses names equal mode read unplaced returned

end

section

open CommonUnits

/-- Beyond the pole there is no position, on the image of an equatorial header. -/
theorem imported_beyond_pole :
    let axes : List Sky.Axis := [⟨"RA---TAN".toList, 150, 51, 1, .degree⟩, ⟨"DEC--TAN".toList, 2, 51, 1, .degree⟩]
    let header : Sky.Header := ⟨axes, none, none⟩
    let shape : Shape := .point ⟨⟨150, .degree⟩, ⟨95, .degree⟩⟩
    ∃ onHeader, Sky.HeaderImage.ofHeader header = .ok onHeader ∧ onHeader.coordinates.RefusesPositions ∧ ∃ result,
      (imported onHeader.toImage [] 0 "fk5; point(150,95); point(1p,2p)".toList).1 = .ok result ∧
        unplacedIssue ⟨1, "point(150,95)".toList⟩ .point shape ∈ result.issues := by
  intro axes header shape
  let onHeader : Sky.HeaderImage := ⟨header, .celestial ⟨axes[0], axes[1], true⟩ (some .icrs)⟩
  have accepted : Sky.HeaderImage.ofHeader header = .ok onHeader := by decide +kernel
  have refuses := onHeader.refusesPositions
  have returned : (imported onHeader.toImage [] 0 "fk5; point(150,95); point(1p,2p)".toList).1 = .ok
      ⟨[⟨.point, [⟨1, 2⟩], 0, [], 0⟩], [unplacedIssue ⟨1, "point(150,95)".toList⟩ .point shape]⟩ := by decide +kernel
  have split : logicalLines? ({} : Settings).lineDelimiter "fk5; point(150,95); point(1p,2p)".toList =
      some ([⟨1, "fk5".toList⟩] ++ ⟨1, "point(150,95)".toList⟩ :: [⟨1, "point(1p,2p)".toList⟩]) := by decide +kernel
  have mode : declaredMode? (latestDeclaration? ["fk5".toList]) = some (.sky .j2000) := by decide +kernel
  have reads : ReadsShape (.sky .j2000) (trim "point(150,95)".toList) .point shape :=
    ⟨by decide +kernel, "point".toList, ["150".toList, "95".toList], by decide +kernel, by decide +kernel, by decide +kernel⟩
  have unplaced : onHeader.coordinates.place .j2000 ⟨150, .degree⟩ ⟨95, .degree⟩ = .ok none := by decide +kernel
  refine ⟨onHeader, accepted, refuses, _, returned, ?_⟩
  exact (imported_onCoordinates refuses 0 _ []).2 _ returned _ _ _ _ _ shape split mode reads
    ⟨_, List.mem_singleton_self _, unplaced⟩

/-- A declaration on the image of a header with helioprojective axes costs the whole import. -/
theorem imported_interrupted_by_declaration :
    let axes : List Sky.Axis := [⟨"HPLN-TAN".toList, 0, 1, 1, .degree⟩, ⟨"HPLT-TAN".toList, 0, 1, 1, .degree⟩]
    let header : Sky.Header := ⟨axes, none, none⟩
    ∃ onHeader, Sky.HeaderImage.ofHeader header = .ok onHeader ∧ onHeader.coordinates.RefusesPositions ∧
      (imported onHeader.toImage [] 0 "point(1,2)\nfk5\npoint(3,4)".toList).1 =
        .error (.image (.refused Sky.Celestial.unknownSystem)) := by
  intro axes header
  let onHeader : Sky.HeaderImage := ⟨header, .celestial ⟨axes[0], axes[1], true⟩ none⟩
  exact ⟨onHeader, by decide +kernel, onHeader.refusesPositions, by decide +kernel⟩

end

end Import
end SkyRegion
