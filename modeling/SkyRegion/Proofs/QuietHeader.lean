import SkyRegion.Proofs.LineByLine
import SkyRegion.Proofs.TextParts
import SkyRegion.Writer.Basic

/-! Headers of which nothing comes. A line is quiet when an import takes at most a frame from it, and the lines of a
text are quiet exactly if the text is imported as nothing; what follows a quiet header is then imported in the
frame that ends it. -/

namespace SkyRegion

open Image Text

namespace ImportResult

theorem append_eq_empty {first second : ImportResult} (nothing : first ++ second = .empty) :
    first = .empty ∧ second = .empty := by
  obtain ⟨regions, issues⟩ := first
  obtain ⟨regions', issues'⟩ := second
  change ImportResult.mk (regions ++ regions') (issues ++ issues') = ⟨[], []⟩ at nothing
  simp only [mk.injEq, List.append_eq_nil_iff] at nothing
  simp [empty, nothing]

end ImportResult

namespace Import

/-- A line of which nothing comes, but at most another frame. -/
def isQuiet (line : Text) : Bool :=
  match LineKind.ofLine line with
  | .frame => (Frame.ofKeyword (Frame.keywordOf line)).mode?.isSome
  | .shape =>
    match (Definition.ofText line).tokens with
    | [] => true
    | first :: arguments => (ShapeKeyword.ofLine? (withoutSign first) arguments).isNone
  | _ => true

variable {image : Image} {state : ImportState} {line : Text} {mark : Char}

theorem declarationResult_eq_empty_iff (number : Int) (line : Text) :
    declarationResult number line = .empty ↔ (Frame.ofKeyword (Frame.keywordOf line)).mode?.isSome = true := by
  rw [declarationResult]
  cases (Frame.ofKeyword (Frame.keywordOf line)).mode? <;> simp [ImportResult.empty]

theorem reported_ne_empty (number : Int) (keyword : ShapeKeyword) (result : Except Setback Region) :
    reported number keyword result ≠ .ok .empty := by
  rcases result with (complaint | interruption) | region <;> simp [reported, ImportResult.empty]

theorem modeAfter_isSome {mode? : Option PositionMode} (reads : mode?.isSome = true) (quiet : isQuiet line = true) :
    (modeAfter mode? line).isSome = true := by
  rw [modeAfter]
  split
  · rename_i kind
    rwa [isQuiet, kind] at quiet
  · exact reads

theorem start_converts {fileId : Int} {work : Importing PUnit} {post : ImportResult → List Query → Prop}
    (adds : (work.run.run { fileId }).Converts image fun outcome queries =>
      ∃ part mode?, Continues { fileId } mode? outcome (.ok part) ∧ post part queries) :
    (start fileId work).run.Converts image fun result queries => ∃ part, result = .ok part ∧ post part queries := by
  rw [start_run]
  exact .map (adds.mono fun outcome queries ⟨part, mode?, continues, holds⟩ => ⟨part, continues.result_eq, holds⟩)

variable [UnitLibrary]

theorem shapeResult_quiet (kind : LineKind.ofLine line = .shape) (quiet : isQuiet line = true) (mode : PositionMode)
    (fileId number : Int) : shapeResult mode fileId number line = pure .empty := by
  simp only [isQuiet, kind] at quiet
  rw [shapeResult]
  split
  · rfl
  · rename_i first arguments tokens
    rw [tokens] at quiet
    dsimp only at quiet ⊢
    rw [Option.isNone_iff_eq_none.mp quiet]

theorem shapeResult_ensures_of_loud (kind : LineKind.ofLine line = .shape) (loud : isQuiet line = false)
    (mode : PositionMode) (fileId number : Int) :
    (shapeResult mode fileId number line).run.Ensures image fun result => result ≠ .ok .empty := by
  simp only [isQuiet, kind] at loud
  rw [shapeResult]
  split
  · rename_i none
    simp [none] at loud
  · rename_i first arguments tokens
    rw [tokens] at loud
    dsimp only at loud ⊢
    cases known : ShapeKeyword.ofLine? (withoutSign first) arguments with
    | none => simp [known] at loud
    | some keyword => exact .map fun asked => reported_ne_empty number keyword _

/-- A quiet line that declares no frame leaves an import as it was. -/
theorem importLine_idle (other : LineKind.ofLine line ≠ .frame) (quiet : isQuiet line = true) (number : Int) :
    (importLine number line).run.run state = pure (.ok ⟨⟩, state) := by
  rw [importLine]
  cases kind : LineKind.ofLine line with
  | frame => exact absurd kind other
  | shape =>
    simp only [run_bind, get_run, pure_bind]
    cases state.accepting with
    | false => rfl
    | true =>
      rw [if_pos rfl, importShape_run, shapeResult_quiet kind quiet, ExceptT.run_pure, map_pure, added,
        ImportState.add_empty]
  | _ => rfl

/-- A quiet line changes nothing but the mode. -/
theorem importLine_quiet (names : image.NamesFrame) (quiet : isQuiet line = true) (number : Int) :
    ((importLine number line).run.run state).Matches image (Continues state (modeAfter state.currentMode? line))
      (pure (.ok .empty)) := by
  rw [modeAfter]
  by_cases kind : LineKind.ofLine line = .frame
  · simp only [isQuiet, kind] at quiet
    have declared := @declare_matches image state names number line
    rw [(declarationResult_eq_empty_iff number line).mpr quiet] at declared
    simpa [importLine, kind] using declared
  · rw [if_neg kind, importLine_idle kind quiet]
    exact idle_matches

theorem importEach_quiet (names : image.NamesFrame) {lines : List LogicalLine}
    (quiet : ∀ line ∈ lines, isQuiet line.text.trim = true) :
    ((lines.forM fun line => importLine line.number line.text.trim).run.run state).Matches image
      (Continues state (modeAfterAll state.currentMode? lines)) (pure (.ok .empty)) := by
  induction lines generalizing state with
  | nil => exact idle_matches
  | cons line rest ih =>
    rw [List.forall_mem_cons] at quiet
    rw [List.forM, run_bind]
    refine .skip (importLine_quiet names quiet.1 line.number) ?_
    rintro ⟨outcome | outcome, after⟩ continues
    · exact continues.elim
    · have further := @ih after quiet.2
      rw [continues.2.1] at further
      refine further.mono fun outcome result continues' => ?_
      have whole := continues.trans continues'
      cases result <;> exact whole

/-- A line adds a part, and more than nothing unless it is quiet. -/
theorem importLine_adds (names : image.NamesFrame) (number : Int) (line : Text) :
    ((importLine number line).run.run state).Ensures image fun outcome =>
      ∃ result, Continues state (modeAfter state.currentMode? line) outcome result ∧
        (state.currentMode?.isSome = true → result = .ok .empty → isQuiet line = true) := by
  cases heard : isQuiet line with
  | true =>
    exact (importLine_quiet names heard number).ensures.mono fun _ continues => ⟨_, continues, fun _ _ => rfl⟩
  | false =>
    have loud := heard
    simp only [importLine, modeAfter]
    rw [isQuiet] at heard
    cases kind : LineKind.ofLine line with
    | frame =>
      simp only [kind] at heard
      have complains : declarationResult number line ≠ .empty := fun nothing => by
        simp [(declarationResult_eq_empty_iff number line).mp nothing] at heard
      refine (declare_matches names number line).ensures.mono fun outcome continues => ⟨_, continues, fun _ same => ?_⟩
      exact absurd (Except.ok.inj same) complains
    | shape =>
      simp only [run_bind, get_run, pure_bind, reduceCtorEq, if_false]
      cases accepting : state.accepting with
      | true =>
        rw [if_pos rfl, importShape_run]
        refine .map ((shapeResult_ensures_of_loud kind loud state.mode state.fileId number).mono fun result some => ?_)
        exact ⟨result, continues_added result, fun _ same => absurd same some⟩
      | false =>
        have passed : state.currentMode? = none := by simp [ImportState.currentMode?, accepting]
        exact idle_matches.ensures.mono fun _ continues => ⟨_, continues, fun reads => by simp [passed] at reads⟩
    | _ => simp [kind] at heard

theorem importEach_adds (names : image.NamesFrame) (lines : List LogicalLine) :
    ((lines.forM fun line => importLine line.number line.text.trim).run.run state).Ensures image fun outcome =>
      ∃ result, Continues state (modeAfterAll state.currentMode? lines) outcome result ∧
        (state.currentMode?.isSome = true → result = .ok .empty → ∀ line ∈ lines, isQuiet line.text.trim = true) := by
  induction lines generalizing state with
  | nil => exact idle_matches.ensures.mono fun _ continues => ⟨_, continues, fun _ _ => List.forall_mem_nil _⟩
  | cons line rest ih =>
    rw [List.forM, run_bind]
    refine .bind (importLine_adds names line.number line.text.trim) ?_
    rintro ⟨interruption | _, after⟩ ⟨interruption' | part, continues, quiet⟩
    · exact .pure ⟨.error interruption', continues, fun _ same => by cases same⟩
    · exact continues.elim
    · exact continues.elim
    · have further := @ih after
      rw [continues.2.1] at further
      refine further.mono fun outcome adds => ?_
      obtain ⟨result, continues', quiet'⟩ := adds
      refine ⟨_, continues.trans continues', fun reads same => ?_⟩
      cases result with
      | error interruption => cases same
      | ok part' =>
        obtain ⟨rfl, rfl⟩ := ImportResult.append_eq_empty (Except.ok.inj same)
        have first := quiet reads rfl
        exact List.forall_mem_cons.mpr ⟨first, quiet' (modeAfter_isSome reads first) rfl⟩

/-- A text imported with the usual delimiter, and all that has been asked by then. -/
def imported (image : Image) (asked : List Query) (fileId : Int) (text : Text) :
    Except Interruption ImportResult × List Query :=
  (ofText fileId ({} : Settings).lineDelimiter text).run.run image asked

theorem imported_eq (asked : List Query) (fileId : Int) (text : Text) : imported image asked fileId text =
    (start fileId ((logicalLinesFrom ';' 1 text).forM fun line => importLine line.number line.text.trim)).run.run
      image asked := by
  rw [imported, ofText, show ({} : Settings).lineDelimiter = [';'] from rfl, logicalLines?_eq]
  rfl

/-- A text of which nothing comes has quiet lines only. -/
theorem isQuiet_of_imported (names : image.NamesFrame) {fileId : Int} {text : Text} {asked : List Query}
    (nothing : (imported image asked fileId text).1 = .ok ⟨[], []⟩) :
    ∀ line ∈ logicalLinesFrom ';' 1 text, isQuiet line.text.trim = true := by
  obtain ⟨result, continues, quiet⟩ := @importEach_adds image { fileId } _ names (logicalLinesFrom ';' 1 text) asked
  rw [imported_eq, start_run, Dialogue.run_map] at nothing
  refine quiet rfl ?_
  cases outcome : ((((logicalLinesFrom ';' 1 text).forM fun line =>
      importLine line.number line.text.trim).run.run { fileId }).run image asked).1 with
  | mk ended after =>
    rw [outcome] at nothing continues
    rcases ended with interruption | _
    · cases nothing
    · cases result with
      | error interruption => exact continues.elim
      | ok part =>
        obtain ⟨_, _, regions, issues⟩ := continues
        simp only [Except.map, Except.ok.injEq, ImportState.result, ImportResult.mk.injEq] at nothing
        rw [nothing.1, List.nil_append] at regions
        rw [nothing.2, List.nil_append] at issues
        rw [ImportResult.empty, regions, issues]

/-- Nothing comes of a text exactly if its lines are quiet. -/
theorem imported_eq_nothing_iff (names : image.NamesFrame) (asked : List Query) (fileId : Int) (text : Text) :
    (imported image asked fileId text).1 = .ok ⟨[], []⟩ ↔
      ∀ line ∈ logicalLinesFrom ';' 1 text, isQuiet line.text.trim = true := by
  refine ⟨isQuiet_of_imported names, fun quiet => ?_⟩
  have idle : (((logicalLinesFrom ';' 1 text).forM fun line => importLine line.number line.text.trim).run.run
      { fileId }).Converts image fun outcome queries =>
        ∃ part mode?, Continues { fileId } mode? outcome (.ok part) ∧ part = .empty :=
    (importEach_quiet names quiet).converts.mono fun _ _ ⟨continues, _⟩ => ⟨_, _, continues, rfl⟩
  obtain ⟨_, _, _, result, rfl⟩ := start_converts idle asked
  rw [imported_eq]
  exact result

end Import

/-- A text that is one line, and puts a mode in force. -/
structure Declares (keyword : Text) (mode : PositionMode) : Prop where
  single : keyword.all (!isLineBreak ·) = true
  undivided : ';' ∉ keyword
  kind : LineKind.ofLine keyword.trim = .frame
  mode : (Frame.ofKeyword (Frame.keywordOf keyword)).mode? = some mode

instance (keyword : Text) (mode : PositionMode) : Decidable (Declares keyword mode) :=
  decidable_of_iff (keyword.all (!isLineBreak ·) = true ∧ ';' ∉ keyword ∧ LineKind.ofLine keyword.trim = .frame ∧
      (Frame.ofKeyword (Frame.keywordOf keyword)).mode? = some mode)
    ⟨fun ⟨single, undivided, kind, mode⟩ => ⟨single, undivided, kind, mode⟩,
      fun declares => ⟨declares.single, declares.undivided, declares.kind, declares.mode⟩⟩

theorem Declares.modeAfter {keyword : Text} {mode : PositionMode} (declares : Declares keyword mode)
    (before : Option PositionMode) : Import.modeAfter before keyword.trim = some mode := by
  rw [Import.modeAfter, if_pos declares.kind, Frame.keywordOf_trim, declares.mode]

/-- The last line of a text that ends in a declaration. -/
theorem Declares.logicalLinesFrom_ending {keyword : Text} {mode : PositionMode} (declares : Declares keyword mode)
    (opening : Text) : ∃ before number,
      logicalLinesFrom ';' 1 (opening ++ '\n' :: (keyword ++ ['\n'])) = before ++ [⟨number, keyword.trim⟩] := by
  have last := @logicalLinesFrom_flatMap ';' [keyword] (1 + (physicalLines (opening ++ ['\n'])).length)
    (by simpa using declares.single) (by simpa using declares.undivided)
  rw [List.flatMap_singleton] at last
  rw [logicalLinesFrom_append_break, last]
  exact ⟨_, _, rfl⟩

namespace Import

variable {image : Image} {fileId : Int} {header : List Text} {opening keyword : Text} {mode : PositionMode}

/-- After a quiet header the lines of a file are imported in the mode that ends it. -/
theorem imported_after_header [UnitLibrary] (names : image.NamesFrame) {asked : List Query}
    (nothing : (imported image asked fileId header.flatten).1 = .ok ⟨[], []⟩)
    (ends : header.flatten = opening ++ '\n' :: (keyword ++ ['\n'])) (declares : Declares keyword mode)
    {body : List Text} (single : ∀ line ∈ body, ∀ c ∈ line, isLineBreak c = false)
    (undivided : ∀ line ∈ body, ';' ∉ line) {post : ImportResult → List Query → Prop}
    (adds : ∀ state start, state.fileId = fileId → state.currentMode? = some mode →
      (((numbered start body).forM fun line => importLine line.number line.text.trim).run.run state).Converts image
        fun outcome queries => ∃ part mode?, Continues state mode? outcome (.ok part) ∧ post part queries)
    (after : List Query) : ∃ part queries,
      (imported image after fileId (header ++ body.map (· ++ ['\n'])).flatten).1 = .ok part ∧
        conversions (imported image after fileId (header ++ body.map (· ++ ['\n'])).flatten).2 =
          conversions after ++ queries ∧ post part queries := by
  have quiet := isQuiet_of_imported names nothing
  obtain ⟨before, number, last⟩ := declares.logicalLinesFrom_ending opening
  rw [← ends] at last
  have whole : (header ++ body.map (· ++ ['\n'])).flatten =
      (opening ++ '\n' :: keyword) ++ '\n' :: body.flatMap (· ++ ['\n']) := by
    rw [List.flatten_append, ends, ← List.flatMap_def]
    simp
  have front : opening ++ '\n' :: keyword ++ ['\n'] = header.flatten := by simp [ends]
  have run : (((logicalLinesFrom ';' 1 (header ++ body.map (· ++ ['\n'])).flatten).forM
      fun line => importLine line.number line.text.trim).run.run { fileId }).Converts image fun outcome queries =>
        ∃ part mode?, Continues { fileId } mode? outcome (.ok part) ∧ post part queries := by
    rw [last] at quiet
    rw [whole, logicalLinesFrom_append_break, front, last, logicalLinesFrom_flatMap _ single undivided,
      List.forM_eq_forM, List.forM_append, run_bind, ← List.forM_eq_forM]
    refine .bind (importEach_quiet names quiet).converts ?_
    rintro ⟨outcome | outcome, after⟩ _ ⟨continues, rfl⟩
    · exact continues.elim
    · have reads := continues.2.1
      rw [modeAfterAll, List.foldl_append, List.foldl_cons, List.foldl_nil, trim_trim, declares.modeAfter] at reads
      refine (adds after _ continues.1 reads).mono fun outcome queries ⟨part, mode?, continues', holds⟩ => ?_
      exact ⟨part, mode?, continues.trans continues', holds⟩
  obtain ⟨queries, log, part, result, holds⟩ := start_converts run after
  rw [imported_eq]
  exact ⟨part, queries, result, log, holds⟩

end Import

namespace Writer

/-- The line of a header that declares its frame. -/
def frameLine (frame : Text) : Text := if frame.isEmpty then "image".toList else frame

theorem header_eq_ok {settings : Settings} {frame : Text} {lines : List Text}
    (made : header settings frame = .ok lines) : ∃ style, settings.style = .ok style ∧
      lines = [banner settings.formatVersion, style.line, frameLine frame].map (· ++ ['\n']) := by
  rw [header] at made
  cases styled : settings.style with
  | error faults =>
    rw [styled] at made
    cases made
  | ok style =>
    rw [styled] at made
    cases made
    exact ⟨style, rfl, rfl⟩

theorem header_flatten {settings : Settings} {frame : Text} {lines : List Text}
    (made : header settings frame = .ok lines) : ∃ opening, lines.flatten = opening ++ '\n' :: (frameLine frame ++ ['\n']) := by
  obtain ⟨style, _, rfl⟩ := header_eq_ok made
  refine ⟨banner settings.formatVersion ++ '\n' :: style.line, ?_⟩
  simp

/-- A file of the default settings in a frame, before a region is added. -/
def opened (frame : Text) : Writer where
  space := .world
  frame := frame
  style := if frame.isEmpty then .linear else .sky
  lines := [banner ({} : Settings).formatVersion, ({} : Style).line, frameLine frame].map (· ++ ['\n'])
  count := 0

theorem create_world {settings : Settings} {image : Image} {asked : List Query} {name frame : Text} {writer : Writer}
    (named : (frameName.run.run image asked).1 = .ok name) (written : Frame.writtenKeyword name = frame)
    (made : ((create settings .world true).run.run image asked).1 = .ok writer) : ∃ lines,
      header settings frame = .ok lines ∧
        writer = ⟨.world, frame, if frame.isEmpty then .linear else .sky, lines, 0⟩ := by
  simp only [create, if_true, ExceptT.run_bind, Dialogue.run_bind, Dialogue.run_adapt, named, Except.mapError,
    written] at made
  cases found : header settings frame with
  | error fault =>
    rw [found] at made
    cases made
  | ok lines =>
    rw [found] at made
    cases made
    exact ⟨lines, rfl, rfl⟩

end Writer
end SkyRegion
