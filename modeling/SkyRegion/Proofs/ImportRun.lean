import SkyRegion.Import.Basic
import SkyRegion.Proofs.Dialogue

/-! What one line does to an import. Only the mode in force decides how a line is read, and a line only ever
adds a region or an issue; the rest of the state is the frame of the image, which nothing reads. -/

namespace SkyRegion

open Image Text

namespace Frame

/-- The mode a declaration puts in force; none accepts no shapes. -/
def mode? : Frame → Option PositionMode
  | .unsupported => none
  | .pixel => some .pixels
  | frame => some (.sky frame)

end Frame

namespace ImportResult

def empty : ImportResult := ⟨[], []⟩

def append (first second : ImportResult) : ImportResult :=
  ⟨first.regions ++ second.regions, first.issues ++ second.issues⟩

instance : Append ImportResult := ⟨append⟩

@[simp] theorem append_regions (first second : ImportResult) :
    (first ++ second).regions = first.regions ++ second.regions := rfl

@[simp] theorem append_issues (first second : ImportResult) :
    (first ++ second).issues = first.issues ++ second.issues := rfl

end ImportResult

namespace ImportState

/-- The mode in which a shape would be read, unless shapes are passed over. -/
def currentMode? (state : ImportState) : Option PositionMode :=
  if state.accepting then some state.mode else none

def add (state : ImportState) (part : ImportResult) : ImportState :=
  { state with regions := state.regions ++ part.regions, issues := state.issues ++ part.issues }

@[simp] theorem add_empty (state : ImportState) : state.add .empty = state := by
  simp [add, ImportResult.empty]

@[simp] theorem add_nil (state : ImportState) : state.add ⟨[], []⟩ = state := add_empty state

@[simp] theorem currentMode?_add (state : ImportState) (part : ImportResult) :
    (state.add part).currentMode? = state.currentMode? := rfl

end ImportState

namespace Shape

variable (name : Text) (image : Image) (asked : List Query)

/-- What a position comes to by the reply of an image. -/
def placed : Except Fault (Option (Number × Number)) → Except Setback Point
  | .ok (some (x, y)) => .ok ⟨x, y⟩
  | .ok none => .error (.complaint (.notPlaced name))
  | .error fault => .error (.interruption (.image fault))

/-- What a length comes to by the reply of an image. -/
def measured : Except Fault Number → Except Setback Number
  | .ok pixels => .ok pixels
  | .error fault => .error (if fault.isRefusal then .complaint (.notPlaced name) else .interruption (.image fault))

theorem placePosition_run (frame : Frame) (position : Position) :
    (placePosition (.sky frame) name position).run.run image asked =
      (placed name (image.answer asked (.toPixel frame position.x position.y)),
        asked ++ [.toPixel frame position.x position.y]) := by
  rw [placePosition, ExceptT.run_mk, Dialogue.run]
  rcases image.answer asked (.toPixel frame position.x position.y) with fault | _ | pixel <;> rfl

theorem placeLength_run (length : Quantity) (axis : Axis) : (placeLength name length axis).run.run image asked =
    (measured name (image.answer asked (.toPixelLength length axis)), asked ++ [.toPixelLength length axis]) := by
  rw [placeLength, ExceptT.run_mk, Dialogue.run]
  cases image.answer asked (.toPixelLength length axis) <;> rfl

end Shape

namespace Import

variable {image : Image} {state : ImportState}

theorem currentMode?_eq_some {mode : PositionMode} (reads : state.currentMode? = some mode) :
    state.accepting = true ∧ state.mode = mode := by
  rw [ImportState.currentMode?] at reads
  split at reads
  · exact ⟨‹_›, Option.some.inj reads⟩
  · cases reads

theorem run_bind (work : Importing α) (next : α → Importing β) :
    (work >>= next).run.run state = work.run.run state >>= fun
      | (.ok value, after) => (next value).run.run after
      | (.error interruption, after) => pure (.error interruption, after) := by
  rw [ExceptT.run_bind, StateT.run_bind]
  congr 1
  funext ⟨outcome, after⟩
  cases outcome <;> rfl

@[simp] theorem get_run : (get : Importing ImportState).run.run state = pure (.ok state, state) := rfl

@[simp] theorem modify_run (change : ImportState → ImportState) :
    (modify change : Importing PUnit).run.run state = pure (.ok ⟨⟩, change state) := rfl

theorem lift_run (work : Dialogue α) :
    (ExceptT.lift (StateT.lift work) : Importing α).run.run state = (fun value => (.ok value, state)) <$> work := by
  rw [ExceptT.run_lift, StateT.run_map, StateT.run_lift]
  rw [map_eq_pure_bind, map_eq_pure_bind]
  simp only [bind_assoc, pure_bind]

def reported (number : Int) (keyword : ShapeKeyword) : Except Setback Region → Except Interruption ImportResult
  | .ok region => .ok ⟨[region], []⟩
  | .error (.complaint complaint) => .ok ⟨[], [.ofComplaint number keyword.name complaint]⟩
  | .error (.interruption interruption) => .error interruption

/-- What a shape line adds in a given mode. -/
def shapeResult [UnitLibrary] (mode : PositionMode) (fileId : Int) (number : Int) (line : Text) :
    ExceptT Interruption Dialogue ImportResult :=
  let definition := Definition.ofText line
  match definition.tokens with
  | [] => pure .empty
  | first :: arguments =>
    let word := withoutSign first
    match ShapeKeyword.ofLine? word arguments with
    | none => pure .empty
    | some keyword =>
      let label := (definition.properties.get? "text".toList).getD []
      let placing : Placing Region := do
        (← Shape.read mode keyword word arguments).place mode label fileId
      ExceptT.mk (reported number keyword <$> placing.run)

/-- The state of an import after something was added to it, or it was interrupted. -/
def added (state : ImportState) : Except Interruption ImportResult → Except Interruption PUnit.{1} × ImportState
  | .ok part => (.ok ⟨⟩, state.add part)
  | .error interruption => (.error interruption, state)

theorem settle_run (number : Int) (keyword : ShapeKeyword) (result : Except Setback Region) :
    (settle number keyword result).run.run state = pure (added state (reported number keyword result)) := by
  rcases result with (complaint | interruption) | region
  · simp [settle, reported, added, ImportState.add, ImportState.addIssue]
  · rfl
  · simp [settle, reported, added, ImportState.add, ImportState.addRegion]

theorem importShape_run [UnitLibrary] (number : Int) (line : Text) :
    (importShape number line).run.run state =
      added state <$> (shapeResult state.mode state.fileId number line).run := by
  simp only [importShape, shapeResult]
  cases (Definition.ofText line).tokens with
  | nil => simp [added]
  | cons first arguments =>
    simp only
    cases ShapeKeyword.ofLine? (withoutSign first) arguments with
    | none => simp [added]
    | some keyword =>
      simp only [run_bind, get_run, pure_bind, lift_run, settle_run, ExceptT.run_mk, map_eq_pure_bind, bind_assoc]

theorem learnFrame_matches (names : image.NamesFrame) :
    (learnFrame.run.run state).Matches image
      (fun result _ => ∃ name, result = (.ok ⟨⟩, { state with imageFrame := name })) (pure PUnit.unit) := by
  by_cases unknown : state.imageFrame.isEmpty
  · have asks : learnFrame.run.run state = _ := if_pos unknown
    rw [asks]
    refine .skip (frameName_matches names) ?_
    rintro _ ⟨name, rfl⟩
    exact .pure ⟨name, rfl⟩
  · have knows : learnFrame.run.run state = pure (.ok ⟨⟩, state) := if_neg unknown
    rw [knows]
    exact .pure ⟨state.imageFrame, rfl⟩

def declarationResult (number : Int) (line : Text) : ImportResult :=
  match (Frame.ofKeyword (Frame.keywordOf line)).mode? with
  | some _ => .empty
  | none => ⟨[], [.ofComplaint number (Frame.keywordOf line) (.unsupportedFrame (Frame.keywordOf line))]⟩

/-- An import that adds a part and goes on in a mode, or is interrupted as the part is. -/
def Continues (before : ImportState) (mode? : Option PositionMode) :
    Except Interruption PUnit.{1} × ImportState → Except Interruption ImportResult → Prop
  | (.ok _, after), .ok part =>
    after.fileId = before.fileId ∧ after.currentMode? = mode? ∧
      after.regions = before.regions ++ part.regions ∧ after.issues = before.issues ++ part.issues
  | (.error interruption, _), .error interruption' => interruption = interruption'
  | _, _ => False

theorem continues_added (result : Except Interruption ImportResult) :
    Continues state state.currentMode? (added state result) result := by
  cases result with
  | ok part => exact ⟨rfl, rfl, rfl, rfl⟩
  | error interruption => exact rfl

theorem Continues.trans {mode? mode?' : Option PositionMode} {after : ImportState} {part : ImportResult}
    {outcome : Except Interruption PUnit.{1} × ImportState} {result : Except Interruption ImportResult}
    (first : Continues state mode? (.ok ⟨⟩, after) (.ok part)) (rest : Continues after mode?' outcome result) :
    Continues state mode?' outcome (result.map (part ++ ·)) := by
  obtain ⟨outcome | outcome, final⟩ := outcome <;> cases result <;> try exact rest
  obtain ⟨fileId, _, regions, issues⟩ := first
  obtain ⟨fileId', mode, regions', issues'⟩ := rest
  exact ⟨fileId'.trans fileId, mode, by simp [regions', regions], by simp [issues', issues]⟩

theorem idle_matches : (pure (.ok ⟨⟩, state) : Dialogue _).Matches image
    (Continues state state.currentMode?) (pure (.ok .empty)) := by
  have holds := @continues_added state (.ok .empty)
  rw [added, ImportState.add_empty] at holds
  exact .pure holds

theorem declare_matches (names : image.NamesFrame) (number : Int) (line : Text) :
    ((declare number line).run.run state).Matches image
      (Continues state (Frame.ofKeyword (Frame.keywordOf line)).mode?)
      (pure (.ok (declarationResult number line))) := by
  simp only [declare, declareFrame, declarationResult]
  cases Frame.ofKeyword (Frame.keywordOf line) with
  | unsupported =>
    apply Dialogue.Matches.pure
    simp [Continues, ImportState.addIssue, ImportState.currentMode?, Frame.mode?]
  | pixel =>
    apply Dialogue.Matches.pure
    simp [Continues, ImportState.currentMode?, ImportState.mode, Frame.mode?, ImportResult.empty]
  | _ =>
    simp only [run_bind, modify_run, pure_bind, bind_assoc]
    refine .skip (learnFrame_matches names) ?_
    rintro _ ⟨name, rfl⟩
    apply Dialogue.Matches.pure
    simp [Continues, ImportState.currentMode?, ImportState.mode, Frame.mode?, ImportResult.empty]

section

variable [UnitLibrary]

def lineResult (mode? : Option PositionMode) (fileId : Int) (number : Int) (line : Text) :
    ExceptT Interruption Dialogue ImportResult :=
  match LineKind.ofLine line, mode? with
  | .frame, _ => pure (declarationResult number line)
  | .shape, some mode => shapeResult mode fileId number line
  | _, _ => pure .empty

def modeAfter (mode? : Option PositionMode) (line : Text) : Option PositionMode :=
  if LineKind.ofLine line = .frame then (Frame.ofKeyword (Frame.keywordOf line)).mode? else mode?

theorem importLine_matches (names : image.NamesFrame) (ignores : image.IgnoresFrameQueries) (number : Int)
    (line : Text) :
    ((importLine number line).run.run state).Matches image
      (Continues state (modeAfter state.currentMode? line))
      (lineResult state.currentMode? state.fileId number line).run := by
  simp only [importLine, lineResult, modeAfter]
  cases LineKind.ofLine line with
  | frame => simpa using declare_matches names number line
  | shape =>
    simp only [run_bind, get_run, pure_bind, reduceCtorEq, if_false]
    cases accepting : state.accepting with
    | true =>
      have mode : state.currentMode? = some state.mode := by simp [ImportState.currentMode?, accepting]
      have continues := @continues_added state
      rw [mode] at continues
      simp only [mode, if_true, importShape_run]
      exact .map ignores continues
    | false =>
      have mode : state.currentMode? = none := by simp [ImportState.currentMode?, accepting]
      have idle := @idle_matches image state
      rw [mode] at idle
      simpa [mode] using idle
  | _ => simpa using idle_matches

/-- What lines add one after the other, each in the mode that the declarations before it leave. -/
def linesResult (fileId : Int) : Option PositionMode → List LogicalLine → ExceptT Interruption Dialogue ImportResult
  | _, [] => pure .empty
  | mode?, line :: rest => do
    let part ← lineResult mode? fileId line.number line.text.trim
    (part ++ ·) <$> linesResult fileId (modeAfter mode? line.text.trim) rest

def modeAfterAll (mode? : Option PositionMode) (lines : List LogicalLine) : Option PositionMode :=
  lines.foldl (fun mode? line => modeAfter mode? line.text.trim) mode?

theorem importEach_matches (names : image.NamesFrame) (ignores : image.IgnoresFrameQueries)
    (lines : List LogicalLine) {state : ImportState} {mode? : Option PositionMode} {fileId : Int}
    (mode : state.currentMode? = mode?) (file : state.fileId = fileId) :
    ((lines.forM fun line => importLine line.number line.text.trim).run.run state).Matches image
      (Continues state (modeAfterAll mode? lines)) (linesResult fileId mode? lines).run := by
  induction lines generalizing state mode? with
  | nil =>
    subst mode
    exact idle_matches
  | cons line rest ih =>
    subst mode file
    rw [List.forM, run_bind, linesResult, ExceptT.run_bind]
    refine .bind (importLine_matches names ignores line.number line.text.trim) ?_
    rintro ⟨outcome | outcome, after⟩ (_ | part) continues
    · exact .pure continues
    · exact continues.elim
    · exact continues.elim
    · simp only [ExceptT.run_map]
      exact .map_right ((ih continues.2.1 continues.1).mono fun _ _ => Continues.trans continues)

def initialResult (initialFrame : Text) : ImportResult :=
  if initialFrame.isEmpty then .empty else declarationResult 0 initialFrame

def initialMode? (initialFrame : Text) : Option PositionMode :=
  if initialFrame.isEmpty then some .pixels else (Frame.ofKeyword (Frame.keywordOf initialFrame)).mode?

theorem importLines_matches (names : image.NamesFrame) (ignores : image.IgnoresFrameQueries) (fileId : Int)
    (initialFrame : Text) (lines : List LogicalLine) :
    ((importLines initialFrame lines).run.run { fileId }).Matches image
      (Continues { fileId } (modeAfterAll (initialMode? initialFrame) lines))
      ((initialResult initialFrame ++ ·) <$> linesResult fileId (initialMode? initialFrame) lines).run := by
  rw [ExceptT.run_map]
  apply Dialogue.Matches.map_right
  simp only [importLines, initialResult, initialMode?]
  by_cases empty : initialFrame.isEmpty = true
  · simp only [empty, if_true]
    refine (importEach_matches names ignores lines rfl rfl).mono fun _ _ => ?_
    exact Continues.trans (@continues_added _ (.ok .empty))
  · simp only [empty]
    rw [if_neg Bool.false_ne_true, run_bind]
    refine .skip (declare_matches names 0 initialFrame) ?_
    rintro ⟨outcome | outcome, after⟩ continues
    · exact continues.elim
    · exact (importEach_matches names ignores lines continues.2.1 continues.1).mono fun _ _ =>
        Continues.trans continues

end

theorem start_run (fileId : Int) (work : Importing PUnit) : (start fileId work).run =
    (fun outcome => outcome.1.map fun _ => outcome.2.result) <$> work.run.run { fileId } := by
  rw [map_eq_pure_bind]
  rfl

/-- What an import adds to nothing is its result. -/
theorem Continues.result_eq {fileId : Int} {mode? : Option PositionMode}
    {outcome : Except Interruption PUnit.{1} × ImportState} {result : Except Interruption ImportResult}
    (continues : Continues { fileId } mode? outcome result) : (outcome.1.map fun _ => outcome.2.result) = result := by
  obtain ⟨interruption | _, after⟩ := outcome <;> cases result
  · exact congrArg _ continues
  · exact continues.elim
  · exact continues.elim
  · obtain ⟨_, _, regions, issues⟩ := continues
    simp [Except.map, ImportState.result, regions, issues]

theorem start_matches {fileId : Int} {work : Importing PUnit} {mode? : Option PositionMode}
    {result : ExceptT Interruption Dialogue ImportResult}
    (matched : (work.run.run { fileId }).Matches image (Continues { fileId } mode?) result.run) :
    (start fileId work).run.Matches image (· = ·) result.run := by
  rw [start_run]
  exact .map_left (matched.mono fun _ _ => Continues.result_eq)

theorem ofLines_matches [UnitLibrary] (names : image.NamesFrame) (ignores : image.IgnoresFrameQueries) (fileId : Int)
    (initialFrame : Text) (lines : List Text) :
    (ofLines fileId initialFrame lines).run.Matches image (· = ·)
      ((initialResult initialFrame ++ ·) <$> linesResult fileId (initialMode? initialFrame)
        ((lines.zipIdx 1).map fun (line, number) => ⟨number, line⟩)).run :=
  start_matches (importLines_matches names ignores fileId initialFrame _)

end Import
end SkyRegion
