import Mathlib.Data.List.Induction
import SkyRegion.Proofs.ImportRun

/-! Declarations of a sky frame. They are the only lines that ask an image for its frame; every other line is imported
by adding what is read in the mode in force, whatever the image is. -/

namespace SkyRegion

open Image Text

namespace Frame

/-- A frame whose positions an image places. -/
def isSky (frame : Frame) : Bool :=
  match frame with
  | .pixel => false
  | .unsupported => false
  | _ => true

theorem mode?_of_isSky {frame : Frame} (sky : frame.isSky = true) : frame.mode? = some (.sky frame) := by
  cases frame with
  | pixel | unsupported => cases sky
  | _ => rfl

end Frame

/-- A line that declares a supported frame of the sky. -/
def declaresSky (line : Text) : Bool :=
  LineKind.ofLine line = .frame && (Frame.ofKeyword (Frame.keywordOf line)).isSky

namespace ImportState

/-- The state that a declaration leaves, the frame of the image aside. -/
def declared (state : ImportState) (frame : Frame) : ImportState :=
  { state with frame, pixelMode := decide (frame = .pixel), accepting := decide (frame ≠ .unsupported) }

/-- The state in which a line adds what it adds. -/
def before (state : ImportState) (line : Text) : ImportState :=
  if LineKind.ofLine line = .frame then state.declared (Frame.ofKeyword (Frame.keywordOf line)) else state

@[simp] theorem imageFrame_before (state : ImportState) (line : Text) : (state.before line).imageFrame = state.imageFrame := by
  rw [before]
  split <;> rfl

end ImportState

namespace Import

variable {state : ImportState} {line : Text}

theorem currentMode?_before (state : ImportState) (line : Text) :
    (state.before line).currentMode? = modeAfter state.currentMode? line := by
  rw [ImportState.before, modeAfter]
  split
  · cases Frame.ofKeyword (Frame.keywordOf line) <;> rfl
  · rfl

/-- The state after the image was asked for its frame. -/
def learnt (state : ImportState) : Except Fault Text → Except Interruption PUnit.{1} × ImportState
  | .ok name => (.ok ⟨⟩, { state with imageFrame := name })
  | .error fault => (.error (.image fault), state)

theorem learnFrame_run : learnFrame.run.run state =
    if state.imageFrame.isEmpty then learnt state <$> frameName.run else pure (.ok ⟨⟩, state) := by
  change (if state.imageFrame.isEmpty then frameName.run >>= _ else _) = _
  rw [map_eq_pure_bind]
  congr 2
  funext named
  cases named <;> rfl

/-- A frame of the sky is put in force before the image is asked for its own. -/
theorem declare_run_sky (sky : (Frame.ofKeyword (Frame.keywordOf line)).isSky = true) (number : Int) :
    (declare number line).run.run state =
      learnFrame.run.run (state.declared (Frame.ofKeyword (Frame.keywordOf line))) := by
  simp only [declare, declareFrame]
  cases frame : Frame.ofKeyword (Frame.keywordOf line) with
  | pixel | unsupported =>
    rw [frame] at sky
    cases sky
  | _ =>
    simp only [run_bind, modify_run, pure_bind, bind_assoc]
    refine Eq.trans (bind_congr ?_) (bind_pure _)
    rintro ⟨interruption | _, after⟩ <;> rfl

theorem declare_run (plain : (Frame.ofKeyword (Frame.keywordOf line)).isSky = false) (number : Int) :
    (declare number line).run.run state = pure (.ok ⟨⟩,
      (state.declared (Frame.ofKeyword (Frame.keywordOf line))).add (declarationResult number line)) := by
  simp only [declare, declareFrame, declarationResult]
  cases frame : Frame.ofKeyword (Frame.keywordOf line) with
  | unsupported =>
    simp only [run_bind, modify_run, pure_bind]
    simp [Frame.mode?, ImportState.add, ImportState.addIssue, ImportState.declared]
  | pixel =>
    change _ = pure (Except.ok PUnit.unit, (state.declared .pixel).add .empty)
    rw [ImportState.add_empty]
    rfl
  | _ =>
    rw [frame] at plain
    cases plain

/-- A line that declares no sky frame asks at most for positions and lengths. -/
theorem importLine_run [UnitLibrary] (plain : declaresSky line = false) (number : Int) :
    (importLine number line).run.run state =
      added (state.before line) <$> (lineResult state.currentMode? state.fileId number line).run := by
  have idle : (pure (.ok ⟨⟩, state) : Dialogue _) = added state <$> pure (.ok .empty) := by
    rw [map_pure, added, ImportState.add_empty]
  cases kind : LineKind.ofLine line with
  | frame =>
    simp only [declaresSky, kind, decide_true, Bool.true_and] at plain
    simp only [importLine, lineResult, ImportState.before, kind, if_true, declare_run plain]
    rfl
  | shape =>
    simp only [importLine, lineResult, ImportState.before, kind, reduceCtorEq, if_false, run_bind, get_run, pure_bind]
    cases accepting : state.accepting with
    | true =>
      have mode : state.currentMode? = some state.mode := by simp [ImportState.currentMode?, accepting]
      rw [if_pos rfl, importShape_run, mode]
    | false =>
      have mode : state.currentMode? = none := by simp [ImportState.currentMode?, accepting]
      rw [mode]
      exact idle
  | _ =>
    simp only [importLine, lineResult, ImportState.before, kind, reduceCtorEq, if_false]
    exact idle

theorem continues_before {mode? : Option PositionMode}
    {outcome : Except Interruption PUnit.{1} × ImportState} {result : Except Interruption ImportResult}
    (continues : Continues (state.before line) mode? outcome result) : Continues state mode? outcome result := by
  rw [ImportState.before] at continues
  split at continues <;> exact continues

/-- A line adds what is read in the mode before it and goes on in the mode after it, unless the image is asked for its
frame and fails. -/
theorem importLine_continues [UnitLibrary] {image : Image} {post : Except Interruption ImportResult → Prop} {number : Int}
    (reads : (lineResult state.currentMode? state.fileId number line).run.Ensures image post)
    (unnamed : ∀ asked fault, (frameName.run.run image asked).1 = .error fault → post (.error (.image fault))) :
    ((importLine number line).run.run state).Ensures image fun outcome =>
      ∃ result, Continues state (modeAfter state.currentMode? line) outcome result ∧ post result := by
  cases sky : declaresSky line with
  | false =>
    rw [importLine_run sky]
    refine .map (reads.mono fun result holds => ⟨result, ?_, holds⟩)
    have continues := @continues_added (state.before line) result
    rw [currentMode?_before] at continues
    exact continues_before continues
  | true =>
    rw [declaresSky, Bool.and_eq_true, decide_eq_true_iff] at sky
    obtain ⟨kind, sky⟩ := sky
    have silent : (lineResult state.currentMode? state.fileId number line).run = pure (.ok .empty) := by
      simp only [lineResult, kind, declarationResult, Frame.mode?_of_isSky sky]
      rfl
    have entered := continues_before (@continues_added (state.before line) (.ok .empty))
    rw [added, ImportState.add_empty, currentMode?_before, ImportState.before, if_pos kind] at entered
    rw [silent] at reads
    intro asked
    rw [importLine, kind, declare_run_sky sky, learnFrame_run]
    split
    · rw [Dialogue.run_map]
      cases named : (frameName.run.run image asked).1 with
      | error fault => exact ⟨.error (.image fault), rfl, unnamed asked fault named⟩
      | ok name => exact ⟨.ok .empty, entered, reads asked⟩
    · exact ⟨.ok .empty, entered, reads asked⟩

theorem modeAfter_eq_sky {mode? : Option PositionMode} {frame : Frame} (mode : modeAfter mode? line = some (.sky frame)) :
    declaresSky line = true ∨ mode? = some (.sky frame) := by
  rw [modeAfter] at mode
  split at mode
  · rename_i kind
    left
    rw [declaresSky, kind, decide_eq_true rfl, Bool.true_and]
    cases declared : Frame.ofKeyword (Frame.keywordOf line) with
    | pixel | unsupported =>
      rw [declared] at mode
      cases mode
    | _ => rfl
  · exact .inr mode

/-- Positions are only ever on the sky after a declaration that puts them there. -/
theorem exists_declaresSky {lines : List LogicalLine} {frame : Frame}
    (mode : modeAfterAll (some .pixels) lines = some (.sky frame)) : ∃ line ∈ lines, declaresSky line.text.trim = true := by
  induction lines using List.reverseRecOn with
  | nil => cases mode
  | append_singleton before line ih =>
    rw [modeAfterAll, List.foldl_append, List.foldl_cons, List.foldl_nil] at mode
    cases modeAfter_eq_sky mode with
    | inl sky => exact ⟨line, List.mem_append_right _ List.mem_cons_self, sky⟩
    | inr mode =>
      obtain ⟨other, listed, sky⟩ := ih mode
      exact ⟨other, List.mem_append_left _ listed, sky⟩

/-- Positions are read as pixels, or not at all. -/
def IsOffSky (mode? : Option PositionMode) : Prop := ∀ frame, mode? ≠ some (.sky frame)

theorem isOffSky_pixels : IsOffSky (some .pixels) := by
  intro frame onSky
  cases onSky

end Import

/-- Only on the sky is the image asked for positions, all of them in one frame, and for lengths. -/
def PositionMode.Permits (mode : PositionMode) : Query → Prop
  | .toPixel frame _ _ => mode = .sky frame
  | .toPixelLength .. => mode ≠ .pixels
  | _ => False

theorem PositionMode.not_permits_pixels (query : Query) : ¬PositionMode.pixels.Permits query := by
  cases query with
  | toPixel => exact nofun
  | toPixelLength => exact fun different => different rfl
  | _ => exact id

namespace Shape

variable (mode : PositionMode)

theorem bind_asks {allowed : Query → Prop} {work : Placing α} {next : α → Placing β} (first : work.run.Asks allowed)
    (rest : ∀ value, (next value).run.Asks allowed) : (work >>= next).run.Asks allowed := by
  rw [ExceptT.run_bind]
  apply first.bind
  intro result
  cases result with
  | error setback => trivial
  | ok value => exact rest value

theorem placePosition_asks (shape : Text) (position : Position) :
    (placePosition mode shape position).run.Asks mode.Permits := by
  cases mode with
  | pixels => trivial
  | sky frame =>
    refine ⟨rfl, fun reply => ?_⟩
    rcases reply with fault | _ | ⟨x, y⟩ <;> trivial

theorem placeLength_asks (sky : mode ≠ .pixels) (shape : Text) (length : Quantity) (axis : Axis) :
    (placeLength shape length axis).run.Asks mode.Permits := by
  refine ⟨sky, fun reply => ?_⟩
  cases reply <;> trivial

theorem placeExtent_asks (shape : Text) (extent : Extent) : (placeExtent mode shape extent).run.Asks mode.Permits := by
  cases mode with
  | pixels => trivial
  | sky frame =>
    apply bind_asks (placeLength_asks (.sky frame) nofun shape extent.width .horizontal)
    intro width
    apply bind_asks (placeLength_asks (.sky frame) nofun shape extent.height .vertical)
    intro height
    trivial

theorem placeCentered_asks (shape : Text) (center : Position) (extent : Extent) :
    (placeCentered mode shape center extent).run.Asks mode.Permits := by
  apply bind_asks (placePosition_asks mode shape center)
  intro place
  apply bind_asks (placeExtent_asks mode shape extent)
  intro size
  trivial

theorem placePoints_asks (shape : Shape) : (placePoints mode shape).run.Asks mode.Permits := by
  cases shape with
  | point position => exact bind_asks (placePosition_asks mode _ position) fun _ => trivial
  | box center extent rotation => exact placeCentered_asks mode _ center extent
  | ellipse center extent rotation => exact placeCentered_asks mode _ center extent
  | polygon vertices =>
    rw [placePoints]
    induction vertices with
    | nil => trivial
    | cons vertex rest ih =>
      rw [List.mapM_cons]
      apply bind_asks (placePosition_asks mode _ vertex)
      intro point
      exact bind_asks ih fun _ => trivial

/-- A shape is placed by the questions that its mode permits. -/
theorem place_asks (shape : Shape) (label : Text) (fileId : Int) :
    (shape.place mode label fileId).run.Asks mode.Permits := by
  apply bind_asks (placePoints_asks mode shape)
  intro points
  cases Region.check ⟨shape.kind, points, shape.rotation, label, fileId⟩ <;> trivial

end Shape

namespace Import

variable {state : ImportState} {line : Text}

theorem shapeResult_asks [UnitLibrary] (mode : PositionMode) (fileId number : Int) (line : Text) :
    (shapeResult mode fileId number line).run.Asks mode.Permits := by
  rw [shapeResult]
  split
  · trivial
  · dsimp only
    split
    · trivial
    · rename_i first arguments _ _ keyword _
      apply Dialogue.Asks.map
      cases Shape.read mode keyword (withoutSign first) arguments with
      | error setback => trivial
      | ok shape => exact shape.place_asks mode _ fileId

/-- A line asks what the mode in force permits, and nothing if shapes are passed over. -/
theorem lineResult_asks [UnitLibrary] (mode? : Option PositionMode) (fileId number : Int) (line : Text) :
    (lineResult mode? fileId number line).run.Asks fun query => ∃ mode, mode? = some mode ∧ mode.Permits query := by
  simp only [lineResult]
  cases LineKind.ofLine line with
  | shape =>
    cases mode? with
    | none => trivial
    | some mode => exact (shapeResult_asks mode fileId number line).mono fun query permitted => ⟨mode, rfl, permitted⟩
  | _ => trivial

theorem IsOffSky.not_permits {mode? : Option PositionMode} (off : IsOffSky mode?) (query : Query) :
    ¬∃ mode, mode? = some mode ∧ mode.Permits query := by
  rintro ⟨_ | frame, known, permitted⟩
  · exact PositionMode.not_permits_pixels query permitted
  · exact off frame known

/-- Lines that declare no sky frame are imported without a question. -/
theorem importEach_asks [UnitLibrary] {lines : List LogicalLine} (plain : ∀ line ∈ lines, declaresSky line.text.trim = false)
    (off : IsOffSky state.currentMode?) :
    ∃ outcome, (lines.forM fun line => importLine line.number line.text.trim).run.run state = pure outcome := by
  induction lines generalizing state with
  | nil => exact ⟨_, rfl⟩
  | cons line rest ih =>
    rw [List.forall_mem_cons] at plain
    have silent := (lineResult_asks state.currentMode? state.fileId line.number line.text.trim).mono off.not_permits
    obtain ⟨result, read⟩ := silent.exists_eq_pure
    rw [List.forM, run_bind, importLine_run plain.1, read, map_pure, pure_bind]
    cases result with
    | error interruption => exact ⟨_, rfl⟩
    | ok part =>
      apply ih plain.2
      intro frame mode
      rw [ImportState.currentMode?_add, currentMode?_before] at mode
      cases modeAfter_eq_sky mode with
      | inl sky =>
        rw [plain.1] at sky
        cases sky
      | inr mode => exact off frame mode

end Import
end SkyRegion
