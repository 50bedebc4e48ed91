import SkyRegion.Proofs.PlacingTrace
import SkyRegion.Proofs.ReadingStages
import SkyRegion.Proofs.SkyDeclarations

/-! What becomes of the line of a shape on the sky. Its reading comes first, and asks the image nothing; a shape that was
read is placed by its questions, up to the first that comes to nothing. Where the line goes wrong decides the kind of its
issue. -/

namespace SkyRegion

open Image Text

theorem Token.IsRead.not_isExcessive [UnitLibrary] {latitude : Bool} {token : Text} (read : IsRead latitude token) :
    ¬IsExcessive latitude token := by
  obtain ⟨quantity, accepted⟩ := (quantity_ok_iff [] .one latitude token).mpr read
  rw [← quantity_interrupts_iff [] .one, accepted]
  exact id

theorem not_reachesExcess_of_forall [UnitLibrary] {readings : List (Text × Bool)}
    (moderate : ∀ reading ∈ readings, ¬Token.IsExcessive reading.2 reading.1) : ¬ReachesExcess readings := by
  intro reaches
  induction reaches with
  | here excessive => exact moderate _ List.mem_cons_self excessive
  | later _ _ ih => exact ih fun reading listed => moderate reading (List.mem_cons_of_mem _ listed)

namespace Shape

variable {mode : PositionMode} {keyword : ShapeKeyword} {word : Text} {arguments : List Text}

/-- The questions that come of quantities: one for a position, then one for each length along its axis, and among vertices
one for each of them. -/
def questionsOf (frame : Frame) : ShapeKeyword → List Quantity → List Query
  | .point, x :: y :: _ => [.toPixel frame x y]
  | .circle, x :: y :: width :: height :: _ =>
    [.toPixel frame x y, .toPixelLength width .horizontal, .toPixelLength height .vertical]
  | .ellipse, x :: y :: width :: height :: _ =>
    [.toPixel frame x y, .toPixelLength width .horizontal, .toPixelLength height .vertical]
  | .box, x :: y :: width :: height :: _ =>
    [.toPixel frame x y, .toPixelLength width .horizontal, .toPixelLength height .vertical]
  | .polygon, values => (pairUp values).map fun vertex => .toPixel frame vertex.x vertex.y
  | _, _ => []

theorem pairUp_of_vertices (vertices : List Position) :
    pairUp (vertices.flatMap fun vertex => [vertex.x, vertex.y]) = vertices := by
  induction vertices with
  | nil => rfl
  | cons vertex rest ih => exact congrArg _ ih

theorem IsMadeOf.questions_eq {values : List Quantity} {shape : Shape} (made : IsMadeOf arguments keyword values shape)
    (frame : Frame) : shape.questions frame = questionsOf frame keyword values := by
  cases made with
  | polygon =>
    rw [questionsOf, pairUp_of_vertices]
    exact List.append_nil _
  | _ => rfl

variable [UnitLibrary]

theorem not_reachesExcess {readings : List (Text × Bool)}
    (each : ∀ reading ∈ readings, Token.IsRead reading.2 reading.1) : ¬ReachesExcess readings :=
  not_reachesExcess_of_forall fun reading listed => (each reading listed).not_isExcessive

/-- A shape that was read is made of its tokens. -/
theorem isReadFrom_of_read {shape : Shape} (accepted : read mode keyword word arguments = .ok shape) :
    HasCount keyword word arguments ∧ IsReadable keyword word arguments ∧ IsReadFrom mode keyword word arguments shape := by
  have safe : ¬ReachesExcess (readings keyword word arguments) := by
    rw [← read_interrupts_iff mode, accepted]
    exact id
  have staged := read_staged mode safe
  rw [accepted] at staged
  cases staged with
  | made count readable holds => exact ⟨count, readable, holds⟩

/-- As many tokens as it takes, each of which is read, make a shape. -/
theorem exists_read (mode : PositionMode) (count : HasCount keyword word arguments)
    (readable : IsReadable keyword word arguments) :
    ∃ shape, read mode keyword word arguments = .ok shape ∧ IsReadFrom mode keyword word arguments shape := by
  have staged := read_staged mode (not_reachesExcess readable.tokens)
  generalize read mode keyword word arguments = result at staged
  cases staged with
  | miscounted few => exact absurd count few
  | refused _ unreadable => exact absurd readable unreadable
  | made _ _ holds => exact ⟨_, rfl, holds⟩

/-- A shape is read, and placed. -/
def readPlaced (mode : PositionMode) (keyword : ShapeKeyword) (word : Text) (arguments : List Text) (label : Text)
    (fileId : Int) : Placing Region := do
  (← read mode keyword word arguments).place mode label fileId

end Shape

namespace Import

/-- The line has the form of a shape, and a keyword takes its first word, without a sign, and the words after it. -/
structure IsTaken (line : Text) (keyword : ShapeKeyword) (word : Text) (arguments : List Text) : Prop where
  kind : LineKind.ofLine line = .shape
  tokens : ∃ first, (Definition.ofText line).tokens = first :: arguments ∧ withoutSign first = word
  takes : ShapeKeyword.ofLine? word arguments = some keyword

/-- The label that a line gives to its region. -/
def labelOf (line : Text) : Text := ((Definition.ofText line).properties.get? "text".toList).getD []

variable {image : Image} {state : ImportState} {line word : Text} {keyword : ShapeKeyword} {arguments : List Text}
  {mode : PositionMode}

section

variable [UnitLibrary]

/-- A line that is taken adds to the state that it finds. -/
theorem IsTaken.importLine_adds (taken : IsTaken line keyword word arguments) (number : Int) :
    (importLine number line).run.run state =
      added state <$> (lineResult state.currentMode? state.fileId number line).run := by
  have plain : declaresSky line = false := by rw [declaresSky, taken.kind]; rfl
  have same : state.before line = state := by
    rw [ImportState.before, taken.kind]
    rfl
  rw [Import.importLine_run plain, same]

/-- A line that is taken does nothing as long as shapes are passed over. -/
theorem IsTaken.importLine_passed (taken : IsTaken line keyword word arguments) (passed : state.currentMode? = none)
    (number : Int) : (importLine number line).run.run state = pure (.ok ⟨⟩, state) := by
  rw [taken.importLine_adds, passed]
  simp only [lineResult, taken.kind]
  nth_rewrite 2 [← state.add_empty]
  rfl

/-- A line that is taken is read and placed, and adds what comes of that. -/
theorem IsTaken.importLine_run (taken : IsTaken line keyword word arguments) (reads : state.currentMode? = some mode)
    (number : Int) : (importLine number line).run.run state =
      (fun result => added state (reported number keyword result)) <$>
        (do (← Shape.read mode keyword word arguments).place mode (labelOf line) state.fileId : Placing Region).run := by
  obtain ⟨first, tokens, unsigned⟩ := taken.tokens
  rw [taken.importLine_adds, reads]
  simp only [lineResult, taken.kind, shapeResult, tokens, unsigned, taken.takes]
  exact Functor.map_map ..

/-- What a line that is taken comes to, and what has been asked then. -/
theorem IsTaken.importLine_run_run (taken : IsTaken line keyword word arguments) (reads : state.currentMode? = some mode)
    (number : Int) (image : Image) (asked : List Query) :
    let placed := (Shape.readPlaced mode keyword word arguments (labelOf line) state.fileId).run.run image asked
    ((importLine number line).run.run state).run image asked = (added state (reported number keyword placed.1), placed.2) := by
  rw [taken.importLine_run reads, Dialogue.run_map]
  rfl

/-- A line whose shape is complained about adds an issue, and asks nothing. -/
theorem IsTaken.importLine_of_unread (taken : IsTaken line keyword word arguments) (reads : state.currentMode? = some mode)
    {complaint : Complaint} (failed : Shape.read mode keyword word arguments = .error (.complaint complaint)) (number : Int)
    (image : Image) (asked : List Query) : ((importLine number line).run.run state).run image asked =
      ((.ok ⟨⟩, state.add ⟨[], [.ofComplaint number keyword.name complaint]⟩), asked) := by
  rw [taken.importLine_run reads, failed]
  rfl

/-- A line whose shape is read adds what comes of placing that. -/
theorem IsTaken.importLine_of_read (taken : IsTaken line keyword word arguments) (reads : state.currentMode? = some mode)
    {shape : Shape} (accepted : Shape.read mode keyword word arguments = .ok shape) (number : Int) (image : Image)
    (asked : List Query) : ((importLine number line).run.run state).run image asked =
      (added state (reported number keyword ((shape.place mode (labelOf line) state.fileId).run.run image asked).1),
        ((shape.place mode (labelOf line) state.fileId).run.run image asked).2) := by
  rw [taken.importLine_run reads, accepted, Dialogue.run_map]
  rfl

end

/-- An import after the declaration of a frame. -/
def declaredJ2000 : ImportState := { fileId := 0, pixelMode := false, frame := .j2000, imageFrame := "J2000".toList }

section

open CommonUnits

end

end Import
end SkyRegion
