import SkyRegion.Proofs.LineNumbers
import SkyRegion.Proofs.PointCounts

/-! What every line of an import accounts for. A line gives a region or an issue or neither, and one of the two if a shape
takes it; both come in the order of the lines. -/

namespace SkyRegion

open Image Text

theorem ShapeKeyword.mem_all (keyword : ShapeKeyword) : keyword ∈ all := by
  cases keyword <;> decide

namespace Import

/-- The first word, without its sign, or the word after it is one that a shape takes. -/
def IsRecognized (line : Text) : Prop :=
  ∃ first arguments keyword, (Definition.ofText line).tokens = first :: arguments ∧
    ShapeKeyword.accepts keyword (withoutSign first) arguments = true

end Import

/-- What is due from a line: one region or one issue at most, and one of the two if the line has the form of a shape that
is read. -/
structure ImportResult.IsDue (part : ImportResult) (fileId : Int) (reads : Bool) (number : Int) (line : Text) : Prop where
  atMostOne : part.regions.length + part.issues.length ≤ 1
  one : LineKind.ofLine line = .shape → reads = true → Import.IsRecognized line →
    part.regions.length + part.issues.length = 1
  numbered : ∀ issue ∈ part.issues, issue.line = number
  imported : ∀ region ∈ part.regions, region.IsImported fileId

namespace Import

variable {fileId number : Int} {reads : Bool} {line : Text}

/-- A line comes to what is due from it, or to an interruption by something else than a miscount. -/
def IsAccountedFor (fileId : Int) (reads : Bool) (number : Int) (line : Text) : Except Interruption ImportResult → Prop
  | .ok part => part.IsDue fileId reads number line
  | .error interruption => ¬(Setback.interruption interruption).IsMiscount

theorem isDue_empty (passed : ¬(LineKind.ofLine line = .shape ∧ reads = true ∧ IsRecognized line)) :
    ImportResult.empty.IsDue fileId reads number line where
  atMostOne := Nat.zero_le _
  one kind read recognized := absurd ⟨kind, read, recognized⟩ passed
  numbered := List.forall_mem_nil _
  imported := List.forall_mem_nil _

theorem reported_isAccountedFor (keyword : ShapeKeyword) {result : Except Setback Region}
    (holds : match result with
      | .ok region => region.IsImported fileId
      | .error setback => ¬setback.IsMiscount) :
    IsAccountedFor fileId reads number line (reported number keyword result) := by
  rcases result with (complaint | interruption) | region
  · exact ⟨le_rfl, fun _ _ _ => rfl, List.forall_mem_singleton.mpr rfl, List.forall_mem_nil _⟩
  · exact holds
  · exact ⟨le_rfl, fun _ _ _ => rfl, List.forall_mem_nil _, List.forall_mem_singleton.mpr holds⟩

section

variable [UnitLibrary]

theorem shapeResult_isAccountedFor (image : Image) (mode : PositionMode) (fileId number : Int) (line : Text) :
    (shapeResult mode fileId number line).run.Ensures image (IsAccountedFor fileId reads number line) := by
  simp only [shapeResult]
  cases tokens : (Definition.ofText line).tokens with
  | nil =>
    refine .pure (isDue_empty ?_)
    rintro ⟨_, _, _, _, _, same, _⟩
    cases tokens.symm.trans same
  | cons first arguments =>
    simp only
    cases found : ShapeKeyword.ofLine? (withoutSign first) arguments with
    | none =>
      refine .pure (isDue_empty ?_)
      rintro ⟨_, _, _, _, keyword, same, accepts⟩
      obtain ⟨rfl, rfl⟩ := List.cons.inj (tokens.symm.trans same)
      exact List.find?_eq_none.mp found keyword keyword.mem_all accepts
    | some keyword =>
      rw [ExceptT.run_mk]
      apply Dialogue.Ensures.map
      have counts := Shape.not_miscounts_read mode keyword (withoutSign first) arguments
      cases reading : Shape.read mode keyword (withoutSign first) arguments with
      | error setback =>
        rw [reading] at counts
        exact .pure (reported_isAccountedFor keyword counts)
      | ok shape =>
        have placed := Shape.place_imports image mode (Shape.isComplete_of_read reading)
          (((Definition.ofText line).properties.get? "text".toList).getD []) fileId
        exact placed.ensures (fun region holds => reported_isAccountedFor keyword holds)
          fun setback holds => reported_isAccountedFor keyword holds

theorem lineResult_isAccountedFor (image : Image) (mode? : Option PositionMode) (fileId number : Int) (line : Text) :
    (lineResult mode? fileId number line).run.Ensures image (IsAccountedFor fileId mode?.isSome number line) := by
  simp only [lineResult]
  cases kind : LineKind.ofLine line with
  | shape =>
    cases mode? with
    | none => exact .pure (isDue_empty fun passed => absurd passed.2.1 Bool.false_ne_true)
    | some mode => exact shapeResult_isAccountedFor image mode fileId number line
  | frame =>
    refine .pure ?_
    rw [declarationResult]
    split
    · exact isDue_empty (by simp [kind])
    · exact ⟨le_rfl, by simp [kind], List.forall_mem_singleton.mpr rfl, List.forall_mem_nil _⟩
  | _ => exact .pure (isDue_empty (by simp [kind]))

theorem importLine_isAccountedFor (image : Image) (state : ImportState) (number : Int) (line : Text) :
    ((importLine number line).run.run state).Ensures image fun outcome =>
      ∃ result, Continues state (modeAfter state.currentMode? line) outcome result ∧
        IsAccountedFor state.fileId state.currentMode?.isSome number line result :=
  importLine_continues (lineResult_isAccountedFor image state.currentMode? state.fileId number line) fun _ _ _ => id

/-- A run over lines from a state, on an image that has been asked questions before. -/
def runLines (image : Image) (state : ImportState) (asked : List Query) (lines : List LogicalLine) :
    (Except Interruption PUnit × ImportState) × List Query :=
  ((lines.forM fun line => importLine line.number line.text.trim).run.run state).run image asked

variable {image : Image} {state : ImportState} {asked : List Query}

theorem runLines_cons (image : Image) (state : ImportState) (asked : List Query) (line : LogicalLine)
    (rest : List LogicalLine) : runLines image state asked (line :: rest) =
      match ((importLine line.number line.text.trim).run.run state).run image asked with
      | ((.ok _, after), asked') => runLines image after asked' rest
      | ((.error interruption, after), asked') => ((.error interruption, after), asked') := by
  rw [runLines, List.forM, run_bind, Dialogue.run_bind]
  rcases ((importLine line.number line.text.trim).run.run state).run image asked with ⟨⟨_ | _, _⟩, _⟩ <;> rfl

/-- One part for each line, due from that line; up to any line the run has added the parts of the lines up to there. -/
structure Divides (image : Image) (state : ImportState) (asked : List Query) (lines : List LogicalLine)
    (parts : List ImportResult) : Prop where
  length : parts.length = lines.length
  reached : ∀ count, ∃ after asked', runLines image state asked (lines.take count) = ((.ok ⟨⟩, after), asked') ∧
    after.result = state.result ++ .concat (parts.take count)
  due : ∀ (index : Nat) (line : LogicalLine) (part : ImportResult), lines[index]? = some line → parts[index]? = some part →
    part.IsDue state.fileId (modeAfterAll state.currentMode? (lines.take index)).isSome line.number line.text.trim

theorem divides_nil : Divides image state asked [] [] where
  length := rfl
  reached count := by
    rw [List.take_nil, List.take_nil]
    exact ⟨state, asked, rfl, (ImportResult.append_empty _).symm⟩
  due _ _ _ present := by cases present

theorem Divides.cons {line : LogicalLine} {rest : List LogicalLine} {part : ImportResult} {parts : List ImportResult}
    {after : ImportState} {asked' : List Query}
    (step : ((importLine line.number line.text.trim).run.run state).run image asked = ((.ok ⟨⟩, after), asked'))
    (continues : Continues state (modeAfter state.currentMode? line.text.trim) (.ok ⟨⟩, after) (.ok part))
    (first : part.IsDue state.fileId state.currentMode?.isSome line.number line.text.trim)
    (divides : Divides image after asked' rest parts) : Divides image state asked (line :: rest) (part :: parts) := by
  obtain ⟨file, mode, regions, issues⟩ := continues
  refine ⟨congrArg (· + 1) divides.length, fun count => ?_, fun index => ?_⟩
  · cases count with
    | zero => exact divides_nil.reached 0
    | succ count =>
      obtain ⟨final, questions, run, adds⟩ := divides.reached count
      refine ⟨final, questions, ?_, ?_⟩
      · rw [List.take_succ_cons, runLines_cons, step]
        exact run
      · have result : after.result = state.result ++ part := by
          rw [ImportState.result, regions, issues]
          rfl
        rw [adds, result, List.take_succ_cons, ImportResult.concat_cons, ImportResult.append_assoc]
  · cases index with
    | zero =>
      rintro _ _ ⟨⟩ ⟨⟩
      exact first
    | succ index =>
      have further := divides.due index
      rw [file, mode] at further
      exact further

/-- Every line of a run comes to what is due from it, or interrupts the run by something else than a miscount. -/
theorem runLines_divides (image : Image) (state : ImportState) (asked : List Query) (lines : List LogicalLine) :
    match (runLines image state asked lines).1.1 with
    | .ok _ => ∃ parts, Divides image state asked lines parts
    | .error interruption => ¬(Setback.interruption interruption).IsMiscount := by
  induction lines generalizing state asked with
  | nil => exact ⟨[], divides_nil⟩
  | cons line rest ih =>
    obtain ⟨result, continues, due⟩ := importLine_isAccountedFor image state line.number line.text.trim asked
    rw [runLines_cons]
    rcases step : ((importLine line.number line.text.trim).run.run state).run image asked with ⟨⟨outcome, after⟩, asked'⟩
    rw [step] at continues
    cases outcome with
    | error interruption =>
      cases result with
      | ok part => exact continues.elim
      | error same =>
        cases continues
        exact due
    | ok done =>
      cases result with
      | error interruption => exact continues.elim
      | ok part =>
        have further := ih after asked'
        dsimp only
        cases final : (runLines image after asked' rest).1.1 with
        | error interruption =>
          rw [final] at further
          exact further
        | ok done =>
          rw [final] at further
          obtain ⟨parts, divides⟩ := further
          exact ⟨part :: parts, divides.cons step continues due⟩

theorem start_runLines (image : Image) (asked : List Query) (fileId : Int) (lines : List LogicalLine) :
    ((start fileId (importLines [] lines)).run.run image asked).1 =
      (runLines image { fileId } asked lines).1.1.map fun _ => (runLines image { fileId } asked lines).1.2.result := by
  rw [start_run, Dialogue.run_map]
  rfl

namespace Divides

variable {lines : List LogicalLine} {parts : List ImportResult} (divides : Divides image state asked lines parts)
include divides

theorem numbered {index : Nat} (inside : index < parts.length) : ∃ present : index < lines.length,
    ∀ issue ∈ parts[index].issues, issue.line = lines[index].number :=
  have present := divides.length ▸ inside
  ⟨present, (divides.due index _ _ (List.getElem?_eq_getElem present) (List.getElem?_eq_getElem inside)).numbered⟩

/-- Issues come in the order of the lines they are about. -/
theorem pairwise (ordered : lines.Pairwise (·.number ≤ ·.number)) :
    (ImportResult.concat parts).issues.Pairwise (·.line ≤ ·.line) := by
  refine List.pairwise_flatMap.mpr ⟨fun part listed => ?_, List.pairwise_iff_getElem.mpr ?_⟩
  · obtain ⟨index, inside, rfl⟩ := List.mem_iff_getElem.mp listed
    obtain ⟨present, same⟩ := divides.numbered inside
    apply List.pairwise_of_forall_mem_list
    intro issue listed other listed'
    rw [same issue listed, same other listed']
  · intro earlier later inside inside' before issue listed other listed'
    obtain ⟨present, same⟩ := divides.numbered inside
    obtain ⟨present', same'⟩ := divides.numbered inside'
    rw [same issue listed, same' other listed']
    exact_mod_cast List.pairwise_iff_getElem.mp ordered earlier later present present' before

theorem forall_issues {holds : Nat → Prop} (numbers : ∀ line ∈ lines, holds line.number) :
    ∀ issue ∈ (ImportResult.concat parts).issues, ∃ number : Nat, issue.line = number ∧ holds number := by
  intro issue listed
  obtain ⟨part, member, listed⟩ := List.mem_flatMap.mp listed
  obtain ⟨index, inside, rfl⟩ := List.mem_iff_getElem.mp member
  obtain ⟨present, same⟩ := divides.numbered inside
  exact ⟨lines[index].number, same issue listed, numbers _ (List.getElem_mem present)⟩

theorem forall_regions : ∀ region ∈ (ImportResult.concat parts).regions, region.IsImported state.fileId := by
  intro region listed
  obtain ⟨part, member, listed⟩ := List.mem_flatMap.mp listed
  obtain ⟨index, inside, rfl⟩ := List.mem_iff_getElem.mp member
  have present := divides.length ▸ inside
  exact (divides.due index _ _ (List.getElem?_eq_getElem present) (List.getElem?_eq_getElem inside)).imported region listed

omit divides in
/-- The lines up to any of them, imported on their own, come to the parts up to there. -/
theorem start_take {fileId : Int} (divides : Divides image { fileId } asked lines parts) (count : Nat) :
    ((start fileId (importLines [] (lines.take count))).run.run image asked).1 = .ok (.concat (parts.take count)) := by
  obtain ⟨after, asked', run, result⟩ := divides.reached count
  rw [start_runLines, run]
  exact congrArg Except.ok result

end Divides

/-- An import that returns is divided among its lines. Each adds what is due from it to what the lines before it gave on
their own; so issues come in the order of the lines, with numbers of physical lines, and every region is made for the file.
No import is interrupted by a miscount. -/
theorem ofText_divided (image : Image) (fileId : Int) (delimiter text : Text) (asked : List Query) :
    let outcome := ((ofText fileId delimiter text).run.run image asked).1
    (∀ fault, outcome ≠ .error (.region fault)) ∧
      ∀ result, outcome = .ok result → ∃ (lines : List LogicalLine) (parts : List ImportResult),
        logicalLines? delimiter text = some lines ∧ parts.length = lines.length ∧ result = .concat parts ∧
        (∀ count, ((start fileId (importLines [] (lines.take count))).run.run image asked).1 =
          .ok (.concat (parts.take count))) ∧
        (∀ (index : Nat) (line : LogicalLine) (part : ImportResult), lines[index]? = some line → parts[index]? = some part →
          part.IsDue fileId (isSupported (latestDeclaration? ((lines.take index).map (·.text)))) line.number line.text.trim) ∧
        result.issues.Pairwise (·.line ≤ ·.line) ∧
        (∀ issue ∈ result.issues, ∃ number : Nat, issue.line = number ∧ 1 ≤ number ∧ number ≤ (physicalLines text).length) ∧
        ∀ region ∈ result.regions, region.IsImported fileId := by
  dsimp only
  cases split : logicalLines? delimiter text with
  | none =>
    have refused : ofText fileId delimiter text = throw .emptyDelimiter := by rw [ofText, split]
    rw [refused]
    refine ⟨fun fault miscounts => ?_, fun result returned => ?_⟩
    · cases miscounts
    · cases returned
  | some lines =>
    have starts : ofText fileId delimiter text = start fileId (importLines [] lines) := by rw [ofText, split]
    have divided := runLines_divides image { fileId } asked lines
    rw [starts]
    cases ended : (runLines image { fileId } asked lines).1.1 with
    | error interruption =>
      rw [ended] at divided
      rw [start_runLines, ended]
      refine ⟨fun fault miscounts => ?_, fun result returned => ?_⟩
      · cases miscounts
        exact divided trivial
      · cases returned
    | ok done =>
      rw [ended] at divided
      obtain ⟨parts, divides⟩ := divided
      have whole := divides.start_take lines.length
      rw [List.take_length, ← divides.length, List.take_length] at whole
      rw [whole]
      refine ⟨fun fault miscounts => ?_, fun result returned => ?_⟩
      · cases miscounts
      cases returned
      obtain ⟨ordered, bounded⟩ := numbers_of_logicalLines? split
      refine ⟨lines, parts, rfl, divides.length, rfl, divides.start_take, fun index line part present same => ?_,
        divides.pairwise ordered, divides.forall_issues bounded, divides.forall_regions⟩
      have due := divides.due index line part present same
      rw [← declaredMode?_isSome, ← modeAfterAll_eq]
      exact due

end

section

open CommonUnits

/-- Shapes that are passed over, a box without a size and a line that no shape takes stand among two regions. -/
theorem ofText_divided_mixed :
    let text := "wcs; circle(1,2,3)\nimage; +point(1,2)\nbox(1,2)\npolygon(0,0,1,0,1,1); moon(3)".toList
    let result : ImportResult :=
      ⟨[⟨.point, [⟨1, 2⟩], 0, [], 7⟩, ⟨.polygon, [⟨0, 0⟩, ⟨1, 0⟩, ⟨1, 1⟩], 0, [], 7⟩],
        [.ofComplaint 1 "wcs".toList (.unsupportedFrame "wcs".toList), .ofComplaint 3 "box".toList (.wrongCount "box".toList)]⟩
    ((ofText 7 ({} : Settings).lineDelimiter text).run.run plane []).1 = .ok result ∧
      (∃ (lines : List LogicalLine) (parts : List ImportResult), logicalLines? ({} : Settings).lineDelimiter text = some lines ∧
        parts.length = lines.length ∧ result = .concat parts ∧
        ∀ (index : Nat) (line : LogicalLine) (part : ImportResult), lines[index]? = some line → parts[index]? = some part →
          part.IsDue 7 (isSupported (latestDeclaration? ((lines.take index).map (·.text)))) line.number line.text.trim) ∧
      result.issues.Pairwise (·.line ≤ ·.line) ∧ ∀ region ∈ result.regions, region.IsImported 7 := by
  intro text result
  have returned : ((ofText 7 ({} : Settings).lineDelimiter text).run.run plane []).1 = .ok result := by decide +kernel
  obtain ⟨lines, parts, split, length, whole, _, due, ordered, _, imported⟩ :=
    (ofText_divided plane 7 ({} : Settings).lineDelimiter text []).2 result returned
  exact ⟨returned, ⟨lines, parts, split, length, whole, due⟩, ordered, imported⟩

end

end Import
end SkyRegion
