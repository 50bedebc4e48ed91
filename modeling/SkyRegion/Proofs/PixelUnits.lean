import SkyRegion.Proofs.CoordinateImport
import SkyRegion.Proofs.PixelIndependence
import SkyRegion.Proofs.PixelReading

/-! Positions and lengths with the unit of pixels. An image that leaves pixels as they are places them alike in every mode;
so it does not matter which frame is declared before them. -/

namespace SkyRegion

open Image Text

/-- An image on which positions and lengths that count pixels stay as they are. -/
structure Image.KeepsPixels (image : Image) : Prop where
  positions : ∀ asked frame x y, x.unit = .pixel → y.unit = .pixel →
    image.answer asked (.toPixel frame x y) = .ok (some (x.value, y.value))
  lengths : ∀ asked length axis, length.unit = .pixel → image.answer asked (.toPixelLength length axis) = .ok length.value

theorem Sky.Coordinates.toImage_keepsPixels (coordinates : Coordinates) : coordinates.toImage.KeepsPixels where
  positions asked frame x y xUnit yUnit := by
    change coordinates.place frame x y = _
    rw [place, xUnit, yUnit]
    rfl
  lengths asked length axis unit := by
    change coordinates.pixelLength length axis.index = _
    rw [pixelLength, unit]
    rfl

namespace Shape

/-- The points of a shape, taken as they are written. -/
def writtenPoints : Shape → List Point
  | .point position => [⟨position.x.value, position.y.value⟩]
  | .box center extent _ => [⟨center.x.value, center.y.value⟩, ⟨extent.width.value, extent.height.value⟩]
  | .ellipse center extent _ => [⟨center.x.value, center.y.value⟩, ⟨extent.width.value, extent.height.value⟩]
  | .polygon vertices => vertices.map fun vertex => ⟨vertex.x.value, vertex.y.value⟩

variable {image : Image} (keeps : image.KeepsPixels) (mode : PositionMode)
include keeps

theorem placePosition_keeps (name : Text) {position : Position} (counts : position.CountsPixels) :
    (placePosition mode name position).Leads image (⟨position.x.value, position.y.value⟩ = ·) fun _ => False := by
  cases mode with
  | pixels => exact .pure rfl
  | sky frame =>
    intro asked
    rw [placePosition_run, keeps.positions asked frame _ _ counts.1 counts.2]
    rfl

theorem placeLength_keeps (name : Text) {length : Quantity} (counts : length.unit = .pixel) (axis : Axis) :
    (placeLength name length axis).Leads image (length.value = ·) fun _ => False := by
  intro asked
  rw [placeLength_run, keeps.lengths asked length axis counts]
  rfl

theorem placeExtent_keeps (name : Text) {extent : Extent} (counts : extent.CountsPixels) :
    (placeExtent mode name extent).Leads image (⟨extent.width.value, extent.height.value⟩ = ·) fun _ => False := by
  cases mode with
  | pixels => exact .pure rfl
  | sky frame =>
    refine .bind (placeLength_keeps keeps name counts.1 .horizontal) ?_
    rintro _ rfl
    refine .bind (placeLength_keeps keeps name counts.2 .vertical) ?_
    rintro _ rfl
    exact .pure rfl

theorem placeCentered_keeps (name : Text) {center : Position} {extent : Extent} (placed : center.CountsPixels)
    (sized : extent.CountsPixels) : (placeCentered mode name center extent).Leads image
      ([⟨center.x.value, center.y.value⟩, ⟨extent.width.value, extent.height.value⟩] = ·) fun _ => False := by
  refine .bind (placePosition_keeps keeps mode name placed) ?_
  rintro _ rfl
  refine .bind (placeExtent_keeps keeps mode name sized) ?_
  rintro _ rfl
  exact .pure rfl

theorem placePoints_keeps {shape : Shape} (counts : shape.CountsPixels) :
    (placePoints mode shape).Leads image (shape.writtenPoints = ·) fun _ => False := by
  cases shape with
  | point position =>
    refine .bind (placePosition_keeps keeps mode _ counts) ?_
    rintro _ rfl
    exact .pure rfl
  | box center extent rotation => exact placeCentered_keeps keeps mode _ counts.1 counts.2
  | ellipse center extent rotation => exact placeCentered_keeps keeps mode _ counts.1 counts.2
  | polygon vertices =>
    refine (Placing.Leads.mapM fun vertex listed => placePosition_keeps keeps mode _ (counts vertex listed)).mono ?_
    intro points placed
    rwa [← List.forall₂_map_left_iff, List.forall₂_eq_eq_eq] at placed

omit mode in
/-- A shape that counts pixels is placed alike in every mode. -/
theorem place_keeps {shape : Shape} (counts : shape.CountsPixels) (label : Text) (fileId : Int) :
    ∃ settled, ∀ mode, (shape.place mode label fileId).run.Ensures image (settled = ·) := by
  refine ⟨(Region.check ⟨shape.kind, shape.writtenPoints, shape.rotation, label, fileId⟩).mapError
    (.interruption ∘ .region), fun mode => ?_⟩
  rw [place, ExceptT.run_bind]
  refine Dialogue.Ensures.bind (placePoints_keeps keeps mode counts) ?_
  rintro (setback | points) holds
  · exact holds.elim
  · cases holds
    dsimp only
    cases Region.check ⟨shape.kind, shape.writtenPoints, shape.rotation, label, fileId⟩ <;> exact .pure rfl

end Shape

namespace Import

/-- The tokens of positions and lengths on a line that a shape takes. -/
def measures (line : Text) : List Text :=
  match (Definition.ofText line).tokens with
  | [] => []
  | first :: arguments =>
    match ShapeKeyword.ofLine? (withoutSign first) arguments with
    | none => []
    | some keyword => Shape.measures keyword (withoutSign first) arguments

variable {image : Image}

section keeps

variable (keeps : image.KeepsPixels) {line : Text} (counts : ∀ token ∈ measures line, Token.CountsPixels token)
include keeps counts

variable [UnitLibrary]

theorem shapeResult_keeps (fileId number : Int) :
    ∃ result, ∀ mode, (shapeResult mode fileId number line).run.Ensures image (result = ·) := by
  simp only [shapeResult]
  cases tokens : (Definition.ofText line).tokens with
  | nil => exact ⟨_, fun _ => .pure rfl⟩
  | cons first arguments =>
    dsimp only
    cases found : ShapeKeyword.ofLine? (withoutSign first) arguments with
    | none => exact ⟨_, fun _ => .pure rfl⟩
    | some keyword =>
      have each : ∀ token ∈ Shape.measures keyword (withoutSign first) arguments, Token.CountsPixels token := by
        simpa only [measures, tokens, found] using counts
      have same (mode : PositionMode) := @Shape.read_congr _ mode (withoutSign first) arguments keyword each
      dsimp only
      cases reading : Shape.read .pixels keyword (withoutSign first) arguments with
      | error setback =>
        refine ⟨reported number keyword (.error setback), fun mode => ?_⟩
        rw [same mode, reading, ExceptT.run_mk]
        exact .map (.pure rfl)
      | ok shape =>
        have counted := Shape.countsPixels_of_read each reading
        obtain ⟨settled, placed⟩ := Shape.place_keeps keeps counted
          (((Definition.ofText line).properties.get? "text".toList).getD []) fileId
        refine ⟨reported number keyword settled, fun mode => ?_⟩
        rw [same mode, reading, ExceptT.run_mk]
        refine .map ((placed mode).mono ?_)
        rintro _ rfl
        rfl

theorem lineResult_keeps (fileId number : Int) :
    ∃ result, ∀ mode, (lineResult (some mode) fileId number line).run.Ensures image (result = ·) := by
  simp only [lineResult]
  cases LineKind.ofLine line with
  | shape => exact shapeResult_keeps keeps counts fileId number
  | _ => exact ⟨_, fun _ => .pure rfl⟩

end keeps

section

variable [UnitLibrary]

/-- A supported declaration adds nothing and leaves its mode. -/
theorem declaration_continues (names : image.NamesFrame) {state : ImportState} {keyword : Text} {mode : PositionMode}
    (kind : LineKind.ofLine keyword.trim = .frame) (declares : (Frame.ofKeyword (Frame.keywordOf keyword)).mode? = some mode)
    (number : Int) : ((importLine number keyword.trim).run.run state).Ensures image fun outcome =>
      Continues state (some mode) outcome (.ok .empty) := by
  have declared := (@declare_matches image state names number keyword.trim).ensures
  simp only [declarationResult, Frame.keywordOf_trim, declares] at declared
  simpa only [importLine, kind] using declared

/-- After a supported declaration a line comes to what is read in the mode declared. -/
theorem ofLines_declared (names : image.NamesFrame) {keyword line : Text} {mode : PositionMode} {fileId : Int}
    {result : Except Interruption ImportResult} (kind : LineKind.ofLine keyword.trim = .frame)
    (declares : (Frame.ofKeyword (Frame.keywordOf keyword)).mode? = some mode)
    (reads : (lineResult (some mode) fileId 2 line.trim).run.Ensures image (result = ·)) :
    (ofLines fileId [] [keyword, line]).run.Ensures image (result = ·) := by
  have both : ((importLines [] [⟨1, keyword⟩, ⟨2, line⟩]).run.run { fileId }).Ensures image fun outcome =>
      ∃ mode?, Continues { fileId } mode? outcome (result.map (.empty ++ ·)) := by
    change ((([⟨1, keyword⟩, ⟨2, line⟩] : List LogicalLine).forM fun line =>
      importLine line.number line.text.trim).run.run { fileId }).Ensures image _
    rw [List.forM, run_bind]
    refine .bind (declaration_continues names kind declares 1) ?_
    rintro ⟨interruption | _, after⟩ first
    · exact first.elim
    · have file : after.fileId = fileId := first.1
      rw [← file, ← first.2.1] at reads
      have second := importLine_continues reads fun asked fault failed => (names.ne_error asked fault failed).elim
      dsimp only
      rw [List.forM, run_bind]
      refine .bind second ?_
      rintro ⟨interruption | _, final⟩ ⟨_, further, rfl⟩
      · exact .pure ⟨_, first.trans further⟩
      · exact .pure ⟨_, first.trans further⟩
  rw [ofLines, start_run]
  refine .map (both.mono ?_)
  rintro outcome ⟨mode?, continues⟩
  rw [continues.result_eq]
  cases result <;> rfl

/-- A line whose positions and lengths all count pixels comes to the same after a keyword of the sky as among pixels, on
every image that leaves pixels as they are. It comes to a result unless its angle, or a token beside its position, is
excessive. -/
theorem ofLines_pixel_units (names : image.NamesFrame) (keeps : image.KeepsPixels) {keyword line : Text}
    (sky : Frame.keywordOf keyword ∈ Frame.skyKeywords) (counts : ∀ token ∈ measures line.trim, Token.CountsPixels token)
    (fileId : Int) (asked : List Query) :
    ((ofLines fileId [] [keyword, line]).run.run image asked).1 =
        ((ofLines fileId [] ["image".toList, line]).run.run image asked).1 ∧
      (¬IsExcessive line.trim → ∃ result, ((ofLines fileId [] [keyword, line]).run.run image asked).1 = .ok result) := by
  obtain ⟨result, reads⟩ := lineResult_keeps keeps counts fileId 2
  have onSky := ofLines_declared names (Frame.ofLine_of_mem_skyKeywords sky)
    (Frame.mode?_of_isSky ((Frame.isSky_ofKeyword_iff _).mpr sky)) (reads _) asked
  have onPixels := @ofLines_declared _ _ names "image".toList _ _ _ _ (by decide +kernel) (by decide +kernel)
    (reads .pixels) asked
  refine ⟨onSky.symm.trans onPixels, fun safe => ?_⟩
  rw [← onSky]
  -- Among pixels nothing is asked, so that an image that answers can stand for the given one.
  have silent := (lineResult_asks (some .pixels) fileId 2 line.trim).mono isOffSky_pixels.not_permits
  obtain ⟨fixed, read⟩ := silent.exists_eq_pure
  have same : result = fixed := by
    have among := reads .pixels asked
    rwa [read] at among
  have fails := lineResult_ensures plane_answersConversions (some .pixels) fileId 2 line.trim []
  rw [read] at fails
  cases result with
  | ok part => exact ⟨part, rfl⟩
  | error interruption =>
    rw [← same] at fails
    exact absurd (fails.mp trivial).2.2 safe

end

section

open CommonUnits

/-- An ellipse with an angle, on the image of an equatorial header. -/
theorem ofLines_pixel_units_equatorial :
    let axes : List Sky.Axis := [⟨"RA---TAN".toList, 150, 51, 1, .degree⟩, ⟨"DEC--TAN".toList, 2, 51, 1, .degree⟩]
    let onHeader : Sky.HeaderImage := ⟨⟨axes, none, none⟩, .celestial ⟨axes[0], axes[1], true⟩ (some .icrs)⟩
    let keyword := " Galactic".toList
    let line : Text := "ellipse(10p,20i,3p,4p,120d)".toList
    onHeader.toImage.NamesFrame ∧ onHeader.toImage.KeepsPixels ∧ Frame.keywordOf keyword ∈ Frame.skyKeywords ∧
      (∀ token ∈ measures line.trim, Token.CountsPixels token) ∧ ¬IsExcessive line.trim ∧
      ((ofLines 7 [] [keyword, line]).run.run onHeader.toImage []).1 =
        ((ofLines 7 [] ["image".toList, line]).run.run onHeader.toImage []).1 ∧
      ∃ result, ((ofLines 7 [] [keyword, line]).run.run onHeader.toImage []).1 = .ok result := by
  intro axes onHeader keyword line
  have names : onHeader.toImage.NamesFrame := Sky.Coordinates.toImage_namesFrame (by decide +kernel)
  have keeps : onHeader.toImage.KeepsPixels := onHeader.coordinates.toImage_keepsPixels
  have sky : Frame.keywordOf keyword ∈ Frame.skyKeywords := by decide +kernel
  have counts : ∀ token ∈ measures line.trim, Token.CountsPixels token := by decide +kernel
  have safe : ¬IsExcessive line.trim := by
    have fails := shapeResult_ensures plane_answersConversions .pixels 7 2 line.trim []
    have read : ((shapeResult .pixels 7 2 line.trim).run.run plane []).1 = .ok
      ⟨[⟨.ellipse, [⟨10, 20⟩, ⟨3, 4⟩], 30, [], 7⟩], []⟩ := by decide +kernel
    rw [read] at fails
    exact fails.mpr
  have units := ofLines_pixel_units names keeps sky counts 7 []
  exact ⟨names, keeps, sky, counts, safe, units.1, units.2 safe⟩

end

end Import
end SkyRegion
