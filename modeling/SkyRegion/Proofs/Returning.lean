import SkyRegion.Proofs.Excess
import SkyRegion.Proofs.LineByLine
import SkyRegion.Proofs.SkyDeclarations
import SkyRegion.Settings

/-! When an import returns. An image that answers keeps every shape from interrupting the import, once the shape
has been read; so what is left is an excessive token on a line whose shape is read. -/

namespace SkyRegion

open Image Text

/-- Positions are placed, or have no pixel; lengths are measured, or refused. -/
structure Image.AnswersConversions (image : Image) : Prop where
  places : ∀ asked frame x y, ∃ pixel?, image.answer asked (.toPixel frame x y) = .ok pixel?
  measures : ∀ asked length axis, (∃ pixels, image.answer asked (.toPixelLength length axis) = .ok pixels) ∨
    ∃ fault, image.answer asked (.toPixelLength length axis) = .error fault ∧ fault.isRefusal = true

theorem Image.plane_answersConversions : plane.AnswersConversions :=
  ⟨fun _ _ x y => ⟨some (x.value, y.value), rfl⟩, fun _ length _ => .inl ⟨length.value, rfl⟩⟩

/-- The work comes to a value of a kind, or to a setback of a kind. -/
def Placing.Leads (work : Placing α) (image : Image) (post : α → Prop) (fault : Setback → Prop) : Prop :=
  work.run.Ensures image fun
    | .ok value => post value
    | .error setback => fault setback

/-- The work comes to a value of a kind, or to a complaint. -/
def Placing.Settles (work : Placing α) (image : Image) (post : α → Prop) : Prop :=
  work.Leads image post fun setback => ¬setback.IsInterruption

namespace Placing.Leads

variable {image : Image} {middle : α → Prop} {post : β → Prop} {fault : Setback → Prop}

theorem pure {value : β} (holds : post value) : Leads (Pure.pure value) image post fault :=
  fun _ => holds

theorem bind {work : Placing α} {next : α → Placing β} (first : Leads work image middle fault)
    (rest : ∀ value, middle value → Leads (next value) image post fault) : Leads (work >>= next) image post fault := by
  rw [Leads, ExceptT.run_bind]
  refine Dialogue.Ensures.bind first ?_
  rintro (setback | value) holds
  · exact .pure holds
  · exact rest value holds

theorem mapM {f : α → Placing β} {placed : α → β → Prop} {items : List α}
    (each : ∀ item ∈ items, Leads (f item) image (placed item) fault) :
    Leads (items.mapM f) image (List.Forall₂ placed items) fault := by
  induction items with
  | nil => exact .pure .nil
  | cons item rest ih =>
    rw [List.forall_mem_cons] at each
    rw [List.mapM_cons]
    refine bind each.1 fun value first => ?_
    exact bind (ih each.2) fun values further => .pure (.cons first further)

theorem ensures {work : Placing β} {final : Except Setback β → Prop} (leads : Leads work image post fault)
    (placed : ∀ value, post value → final (.ok value)) (failed : ∀ setback, fault setback → final (.error setback)) :
    work.run.Ensures image final := by
  refine Dialogue.Ensures.mono leads ?_
  rintro (setback | value) holds
  · exact failed setback holds
  · exact placed value holds

theorem mono {work : Placing β} {stronger : β → Prop} (leads : Leads work image stronger fault)
    (implies : ∀ value, stronger value → post value) : Leads work image post fault :=
  leads.ensures implies fun _ => id

end Placing.Leads

namespace Shape

/-- A polygon that was read has at least three vertices. -/
def IsComplete : Shape → Prop
  | .polygon vertices => 3 ≤ vertices.length
  | _ => True

theorem pairUp_length : ∀ quantities, (pairUp quantities).length = quantities.length / 2
  | [] => rfl
  | [_] => by simp [pairUp]
  | x :: y :: rest => by
    rw [pairUp, List.length_cons, List.length_cons, List.length_cons, pairUp_length rest]
    omega

section

variable [UnitLibrary]

/-- Every token was read, in its order. -/
theorem forall₂_quantities {shape : Text} {place : Nat → Unit} {latitude : Nat → Bool} {tokens : List Text}
    {read : List Quantity} (accepted : quantities shape place latitude tokens = .ok read) :
    List.Forall₂ (fun token quantity => ∃ place latitude, Token.quantity shape place latitude token = .ok quantity)
      tokens read := by
  have each := forall₂_of_mapM_eq_ok accepted
  have same : tokens.zipIdx.map Prod.fst = tokens := List.zipIdx_map_fst ..
  rw [← same, List.forall₂_map_left_iff]
  exact each.imp fun _ _ read => ⟨_, _, read⟩

theorem isComplete_of_readEllipse {mode : PositionMode} {arguments : List Text} {shape : Shape}
    (accepted : readEllipse mode arguments = .ok shape) : shape.IsComplete := by
  rw [readEllipse, bind_eq_ok_iff] at accepted
  obtain ⟨⟨center, extent, angle⟩, _, ⟨⟩⟩ := accepted
  trivial

theorem isComplete_of_readPolygon {mode : PositionMode} {arguments : List Text} {shape : Shape}
    (accepted : readPolygon mode arguments = .ok shape) : shape.IsComplete := by
  rw [readPolygon] at accepted
  by_cases odd : arguments.length % 2 ≠ 0
  · rw [if_pos odd] at accepted
    cases accepted
  by_cases few : arguments.length / 2 < 3
  · rw [if_neg odd, if_pos few] at accepted
    cases accepted
  rw [if_neg odd, if_neg few] at accepted
  simp only [bind_eq_ok_iff] at accepted
  obtain ⟨quantities, read, ⟨⟩⟩ := accepted
  rw [IsComplete, pairUp_length, ← (forall₂_quantities read).length_eq]
  exact not_lt.mp few

theorem isComplete_of_read {mode : PositionMode} {keyword : ShapeKeyword} {word : Text} {arguments : List Text}
    {shape : Shape} (accepted : read mode keyword word arguments = .ok shape) : shape.IsComplete := by
  cases keyword with
  | point =>
    rw [read, readPoint] at accepted
    split at accepted
    · cases accepted
    · obtain ⟨quantities, _, accepted⟩ := (bind_eq_ok_iff ..).mp accepted
      split at accepted <;> cases accepted
      trivial
  | circle =>
    rw [read, readCircle.eq_def] at accepted
    split at accepted
    · exact isComplete_of_readEllipse accepted
    · cases accepted
  | ellipse => exact isComplete_of_readEllipse accepted
  | box =>
    rw [read, readBox, bind_eq_ok_iff] at accepted
    obtain ⟨⟨center, extent, angle⟩, _, ⟨⟩⟩ := accepted
    trivial
  | polygon => exact isComplete_of_readPolygon accepted
  | _ => cases accepted

end

variable {image : Image} (mode : PositionMode)

section leads

variable {fault : Setback → Prop} {name : Text}
  (positions : ∀ position, (placePosition mode name position).Leads image (fun _ => True) fault)
  (lengths : ∀ length axis, (placeLength name length axis).Leads image (fun _ => True) fault)
include positions lengths

theorem placeCentered_leads (center : Position) (extent : Extent) :
    (placeCentered mode name center extent).Leads image (·.length = 2) fault := by
  have sized : (placeExtent mode name extent).Leads image (fun _ => True) fault := by
    cases mode with
    | pixels => exact .pure trivial
    | sky frame =>
      exact .bind (lengths extent.width .horizontal) fun _ _ =>
        .bind (lengths extent.height .vertical) fun _ _ => .pure trivial
  exact .bind (positions center) fun _ _ => .bind sized fun _ _ => .pure rfl

theorem placePoints_leads {shape : Shape} (named : shape.name = name) (complete : shape.IsComplete) :
    (placePoints mode shape).Leads image (fun points => shape.kind.fits points.length = true) fault := by
  subst named
  cases shape with
  | point position => exact .bind (positions position) fun _ _ => .pure rfl
  | box center extent rotation =>
    exact (placeCentered_leads mode positions lengths center extent).mono fun _ count => decide_eq_true count
  | ellipse center extent rotation =>
    exact (placeCentered_leads mode positions lengths center extent).mono fun _ count => decide_eq_true count
  | polygon vertices =>
    refine (Placing.Leads.mapM fun vertex _ => positions vertex).mono fun points placed => ?_
    rw [Shape.kind, RegionKind.fits, ← placed.length_eq]
    exact decide_eq_true complete

/-- A complete shape gives a region of its kind, unless a question goes wrong. -/
theorem place_leads {shape : Shape} (named : shape.name = name) (complete : shape.IsComplete) (label : Text) (fileId : Int) :
    (shape.place mode label fileId).Leads image
      (fun region => ∃ points, shape.kind.fits points.length = true ∧
        region = ⟨shape.kind, points, shape.rotation, label, fileId⟩) fault := by
  refine Placing.Leads.bind (placePoints_leads mode positions lengths named complete) fun points fits => ?_
  simp only [Region.check, fits, if_true]
  exact .pure ⟨points, fits, rfl⟩

end leads

theorem placePosition_settles (answers : image.AnswersConversions) (shape : Text) (position : Position) :
    (placePosition mode shape position).Settles image fun _ => True := by
  cases mode with
  | pixels => exact fun _ => trivial
  | sky frame =>
    intro asked
    obtain ⟨pixel?, replied⟩ := answers.places asked frame position.x position.y
    rw [placePosition_run, replied]
    cases pixel? with
    | none => exact id
    | some pixel => trivial

theorem placeLength_settles (answers : image.AnswersConversions) (shape : Text) (length : Quantity) (axis : Axis) :
    (placeLength shape length axis).Settles image fun _ => True := by
  intro asked
  rw [placeLength_run]
  rcases answers.measures asked length axis with ⟨pixels, replied⟩ | ⟨fault, replied, refusal⟩
  · rw [replied]
    trivial
  · rw [replied, measured, if_pos refusal]
    exact id

/-- A complete shape is placed, or complained about. -/
theorem place_settles (answers : image.AnswersConversions) {shape : Shape} (complete : shape.IsComplete) (label : Text)
    (fileId : Int) : (shape.place mode label fileId).Settles image fun _ => True := by
  have positions := placePosition_settles mode answers shape.name
  have lengths := placeLength_settles answers shape.name
  exact (place_leads mode positions lengths rfl complete label fileId).mono fun _ _ => trivial

end Shape

namespace Import

/-- The line has the form of a shape, and reading it comes upon an excessive token. -/
def IsExcessive [UnitLibrary] (line : Text) : Prop :=
  ∃ first arguments keyword, (Definition.ofText line).tokens = first :: arguments ∧
    ShapeKeyword.ofLine? (withoutSign first) arguments = some keyword ∧
    ReachesExcess (Shape.readings keyword (withoutSign first) arguments)

variable {image : Image}

theorem reported_fails_iff (number : Int) (keyword : ShapeKeyword) (result : Except Setback Region) :
    Fails (reported number keyword result) ↔ Interrupts result := by
  rcases result with (complaint | interruption) | region <;> simp [reported]

section

variable [UnitLibrary]

theorem shapeResult_ensures (answers : image.AnswersConversions) (mode : PositionMode) (fileId number : Int) (line : Text) :
    (shapeResult mode fileId number line).run.Ensures image fun result => Fails result ↔ IsExcessive line := by
  simp only [shapeResult, IsExcessive]
  cases (Definition.ofText line).tokens with
  | nil => exact .pure (by simp)
  | cons first arguments =>
    simp only [List.cons.injEq, ↓existsAndEq, true_and]
    cases ShapeKeyword.ofLine? (withoutSign first) arguments with
    | none => exact .pure (by simp)
    | some keyword =>
      rw [ExceptT.run_mk]
      apply Dialogue.Ensures.map
      simp only [reported_fails_iff, Option.some.injEq, exists_eq_left', ← Shape.read_interrupts_iff mode]
      cases reading : Shape.read mode keyword (withoutSign first) arguments with
      | error setback => exact fun _ => Iff.rfl
      | ok shape =>
        have placed := Shape.place_settles mode answers (Shape.isComplete_of_read reading)
          (((Definition.ofText line).properties.get? "text".toList).getD []) fileId
        exact placed.ensures (fun region _ => iff_of_false id id) fun setback holds => iff_of_false holds id

def Stops (mode? : Option PositionMode) (line : Text) : Prop :=
  LineKind.ofLine line = .shape ∧ mode?.isSome = true ∧ IsExcessive line

/-- The import is stopped, or goes on in the mode that the line leaves. -/
def StopsOrContinues (state : ImportState) (line : Text) : Except Interruption PUnit.{1} × ImportState → Prop
  | (.ok _, after) => ¬Stops state.currentMode? line ∧ after.currentMode? = modeAfter state.currentMode? line
  | (.error _, _) => Stops state.currentMode? line

theorem lineResult_ensures (answers : image.AnswersConversions) (mode? : Option PositionMode) (fileId number : Int)
    (line : Text) :
    (lineResult mode? fileId number line).run.Ensures image fun result => Fails result ↔ Stops mode? line := by
  simp only [lineResult, Stops]
  cases LineKind.ofLine line with
  | shape =>
    cases mode? with
    | none => exact .pure (by simp)
    | some mode => exact (shapeResult_ensures answers mode fileId number line).mono fun _ fails => by simpa using fails
  | _ => exact .pure (by simp)

theorem importLine_ensures (names : image.NamesFrame) (answers : image.AnswersConversions) (state : ImportState)
    (number : Int) (line : Text) :
    ((importLine number line).run.run state).Ensures image (StopsOrContinues state line) := by
  have reads := lineResult_ensures answers state.currentMode? state.fileId number line
  refine (importLine_continues reads fun asked fault failed => (names.ne_error asked fault failed).elim).mono ?_
  rintro ⟨interruption | _, after⟩ ⟨same | part, continues, fails⟩
  · exact fails.mp trivial
  · exact continues.elim
  · exact continues.elim
  · exact ⟨fun stops => fails.mpr stops, continues.2.1⟩

/-- The lines are stopped at one of them, in the mode that those before it leave. -/
def StopsAmong (mode? : Option PositionMode) (lines : List LogicalLine) : Prop :=
  ∃ before line after, lines = before ++ line :: after ∧ Stops (modeAfterAll mode? before) line.text.trim

theorem stopsAmong_cons (mode? : Option PositionMode) (line : LogicalLine) (rest : List LogicalLine) :
    StopsAmong mode? (line :: rest) ↔
      Stops mode? line.text.trim ∨ StopsAmong (modeAfter mode? line.text.trim) rest := by
  constructor
  · rintro ⟨_ | ⟨first, before⟩, stopping, after, equal, stops⟩
    · cases equal
      exact .inl stops
    · cases equal
      exact .inr ⟨before, stopping, after, rfl, stops⟩
  · rintro (stops | ⟨before, stopping, after, rfl, stops⟩)
    · exact ⟨[], line, rest, rfl, stops⟩
    · exact ⟨line :: before, stopping, after, rfl, stops⟩

theorem importEach_ensures (names : image.NamesFrame) (answers : image.AnswersConversions) (lines : List LogicalLine)
    (state : ImportState) :
    ((lines.forM fun line => importLine line.number line.text.trim).run.run state).Ensures image
      fun outcome => Fails outcome.1 ↔ StopsAmong state.currentMode? lines := by
  induction lines generalizing state with
  | nil =>
    refine .pure (iff_of_false id ?_)
    rintro ⟨before, _, _, impossible, _⟩
    simp at impossible
  | cons line rest ih =>
    rw [List.forM, run_bind]
    refine .bind (importLine_ensures names answers state line.number line.text.trim) ?_
    simp only [stopsAmong_cons]
    rintro ⟨interruption | _, after⟩ outcome
    · exact .pure (iff_of_true trivial (.inl outcome))
    · have further := ih after
      rw [outcome.2] at further
      refine further.mono fun result fails => fails.trans ?_
      exact (or_iff_right outcome.1).symm

end

/-- Reading the declarations of the lines is keeping the mode. -/
theorem modeAfterAll_eq (lines : List LogicalLine) :
    modeAfterAll (some .pixels) lines = declaredMode? (latestDeclaration? (lines.map (·.text))) := by
  induction lines using List.reverseRecOn with
  | nil => rfl
  | append_singleton before line ih =>
    rw [List.map_append, List.map_singleton, latestDeclaration?_concat, ← modeAfter_trim, ← ih, modeAfterAll,
      List.foldl_append]
    rfl

/-- Whether a line stops an import depends on the declaration before it and on its own text. -/
theorem stops_modeAfterAll_iff [UnitLibrary] (before : List LogicalLine) (line : Text) :
    Stops (modeAfterAll (some .pixels) before) line ↔ LineKind.ofLine line = .shape ∧
      isSupported (latestDeclaration? (before.map (·.text))) = true ∧ IsExcessive line := by
  rw [Stops, modeAfterAll_eq, declaredMode?_isSome]

theorem logicalLines?_isSome {delimiter : Text} (text : Text) (present : delimiter ≠ []) :
    ∃ lines, logicalLines? delimiter text = some lines := by
  rw [logicalLines?]
  split
  · exact ⟨_, rfl⟩
  · rw [if_neg (by simpa using present)]
    exact ⟨_, rfl⟩

theorem start_returns_iff (fileId : Int) (work : Importing PUnit) (asked : List Query) :
    (∃ result, ((start fileId work).run.run image asked).1 = .ok result) ↔
      ¬Fails ((work.run.run { fileId }).run image asked).1.1 := by
  change (∃ result, ((work.run.run { fileId } >>= _).run image asked).1 = _) ↔ _
  rw [Dialogue.run_bind]
  rcases (work.run.run { fileId }).run image asked with ⟨⟨interruption | _, after⟩, _⟩
  · exact iff_of_false nofun fun returned => returned trivial
  · exact iff_of_true ⟨_, rfl⟩ id

section

open CommonUnits

end

end Import
end SkyRegion
