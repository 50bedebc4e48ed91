import SkyRegion.Proofs.LineByLine

/-! Positions without a pixel. The first of them decides what becomes of a shape, before any length is asked for, and
the complaint about it is among the issues of every import that comes to its result. -/

namespace SkyRegion

open Image Text

namespace Image

/-- Positions have their pixel from one function, or none. -/
def PlacesBy (image : Image) (place? : Frame → Quantity → Quantity → Option (Number × Number)) : Prop :=
  ∀ asked frame x y, image.answer asked (.toPixel frame x y) = .ok (place? frame x y)

end Image

namespace Shape

/-- The positions that an image is asked to place. -/
def positions : Shape → List Position
  | .point position => [position]
  | .box center _ _ => [center]
  | .ellipse center _ _ => [center]
  | .polygon vertices => vertices

section place

variable {image : Image} {place? : Frame → Quantity → Quantity → Option (Number × Number)}

theorem ensures_error_bind {work : Placing α} {next : α → Placing β} {setback : Setback}
    (fails : work.run.Ensures image (· = .error setback)) : (work >>= next).run.Ensures image (· = .error setback) := by
  rw [ExceptT.run_bind]
  refine Dialogue.Ensures.bind fails ?_
  intro _ failed
  rw [failed]
  exact .pure rfl

theorem placePosition_ensures (places : image.PlacesBy place?) (frame : Frame) (shape : Text) (position : Position) :
    (placePosition (.sky frame) shape position).run.Ensures image
      (· = (place? frame position.x position.y).elim (.error (.complaint (.notPlaced shape))) fun (x, y) => .ok ⟨x, y⟩) := by
  intro asked
  rw [placePosition_run, places]
  cases place? frame position.x position.y <;> rfl

theorem placePosition_unplaced (places : image.PlacesBy place?) {frame : Frame} {position : Position}
    (unplaced : place? frame position.x position.y = none) (shape : Text) :
    (placePosition (.sky frame) shape position).run.Ensures image (· = .error (.complaint (.notPlaced shape))) := by
  have placed := placePosition_ensures places frame shape position
  rwa [unplaced] at placed

/-- Vertices are placed from the first one on, up to the one that has no pixel. -/
theorem placeVertices_unplaced (places : image.PlacesBy place?) {frame : Frame} {vertices : List Position}
    (unplaced : ∃ vertex ∈ vertices, place? frame vertex.x vertex.y = none) (shape : Text) :
    (vertices.mapM (placePosition (.sky frame) shape)).run.Ensures image
      (· = .error (.complaint (.notPlaced shape))) := by
  induction vertices with
  | nil =>
    obtain ⟨vertex, listed, _⟩ := unplaced
    exact absurd listed List.not_mem_nil
  | cons vertex rest ih =>
    rw [List.mapM_cons]
    cases pixel : place? frame vertex.x vertex.y with
    | none => exact ensures_error_bind (placePosition_unplaced places pixel shape)
    | some place =>
      have later : ∃ vertex ∈ rest, place? frame vertex.x vertex.y = none := by
        obtain ⟨other, listed, none⟩ := unplaced
        rcases List.mem_cons.mp listed with rfl | listed
        · rw [pixel] at none
          cases none
        · exact ⟨other, listed, none⟩
      have placed := placePosition_ensures places frame shape vertex
      rw [pixel] at placed
      rw [ExceptT.run_bind]
      refine Dialogue.Ensures.bind placed ?_
      intro _ same
      rw [same]
      exact ensures_error_bind (ih later)

/-- A shape with a position that has no pixel is complained about. -/
theorem place_unplaced (places : image.PlacesBy place?) {frame : Frame} {shape : Shape}
    (unplaced : ∃ position ∈ shape.positions, place? frame position.x position.y = none) (label : Text) (fileId : Int) :
    (shape.place (.sky frame) label fileId).run.Ensures image (· = .error (.complaint (.notPlaced shape.name))) := by
  rw [place]
  apply ensures_error_bind
  cases shape with
  | point position =>
    have none : place? frame position.x position.y = none := by simpa [positions] using unplaced
    exact ensures_error_bind (placePosition_unplaced places none _)
  | box center extent rotation | ellipse center extent rotation =>
    have none : place? frame center.x center.y = none := by simpa [positions] using unplaced
    exact ensures_error_bind (placePosition_unplaced places none _)
  | polygon vertices => exact placeVertices_unplaced places unplaced _

end place

end Shape

namespace Import

/-- A line that is read as a shape in a mode, under a keyword. -/
def ReadsShape [UnitLibrary] (mode : PositionMode) (line : Text) (keyword : ShapeKeyword) (shape : Shape) : Prop :=
  LineKind.ofLine line = .shape ∧ ∃ first arguments, (Definition.ofText line).tokens = first :: arguments ∧
    ShapeKeyword.ofLine? (withoutSign first) arguments = some keyword ∧
      Shape.read mode keyword (withoutSign first) arguments = .ok shape

variable {image : Image} {place? : Frame → Quantity → Quantity → Option (Number × Number)}

theorem lineResult_unplaced [UnitLibrary] (places : image.PlacesBy place?) {frame : Frame} {line : Text}
    {keyword : ShapeKeyword} {shape : Shape} (reads : ReadsShape (.sky frame) line keyword shape)
    (unplaced : ∃ position ∈ shape.positions, place? frame position.x position.y = none) (fileId number : Int) :
    (lineResult (some (.sky frame)) fileId number line).run.Ensures image
      (· = .ok ⟨[], [.ofComplaint number keyword.name (.notPlaced shape.name)]⟩) := by
  obtain ⟨kind, first, arguments, tokens, known, read⟩ := reads
  simp only [lineResult, kind, shapeResult, tokens, known, read, ExceptT.run_mk]
  apply Dialogue.Ensures.map
  refine (Shape.place_unplaced places unplaced _ fileId).mono fun result failed => ?_
  rw [failed]
  rfl

theorem ensures_append {rest : Dialogue (Except Interruption ImportResult)} {part : ImportResult}
    {post : ImportResult → Prop} (adds : rest.Ensures image fun result => ∀ further, result = .ok further → post (part ++ further)) :
    ((part ++ ·) <$> ExceptT.mk rest).run.Ensures image fun result => ∀ whole, result = .ok whole → post whole := by
  rw [ExceptT.run_map]
  refine Dialogue.Ensures.map (adds.mono ?_)
  intro result holds whole same
  cases result with
  | error interruption => cases same
  | ok further =>
    cases same
    exact holds further rfl

/-- What one of the lines adds is part of what they add together. -/
theorem linesResult_mem [UnitLibrary] {fileId : Int} {mode? : Option PositionMode} {before after : List LogicalLine}
    {line : LogicalLine} {issue : Issue} (adds : (lineResult (modeAfterAll mode? before) fileId line.number
      line.text.trim).run.Ensures image fun result => ∃ part, result = .ok part ∧ issue ∈ part.issues) :
    (linesResult fileId mode? (before ++ line :: after)).run.Ensures image
      fun result => ∀ whole, result = .ok whole → issue ∈ whole.issues := by
  induction before generalizing mode? with
  | nil =>
    rw [List.nil_append, linesResult, ExceptT.run_bind]
    refine Dialogue.Ensures.bind adds ?_
    rintro _ ⟨part, rfl, member⟩
    refine ensures_append fun asked further _ => ?_
    exact List.mem_append_left _ member
  | cons first before ih =>
    rw [List.cons_append, linesResult, ExceptT.run_bind]
    intro asked
    rw [Dialogue.run_bind]
    cases ((lineResult mode? fileId first.number first.text.trim).run.run image asked).1 with
    | error interruption =>
      intro whole same
      cases same
    | ok part =>
      refine ensures_append (Dialogue.Ensures.mono (ih adds) ?_) _
      intro result holds further same
      exact List.mem_append_right _ (holds further same)

end Import
end SkyRegion
