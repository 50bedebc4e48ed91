import SkyRegion.Proofs.DividedText
import SkyRegion.Proofs.LineByLine
import SkyRegion.Proofs.SkyDeclarations

/-! Delimiters as line breaks. A text is divided at both, and blank lines aside it is divided alike whichever of the two
stands in a place. Only the numbers of the lines are different, and no line is read in the light of its number; so the
same is found in it either way, by the same questions. -/

namespace SkyRegion

open Image Text

namespace Text

/-- The text with a line feed in the place of every delimiter. -/
def withLineFeeds (mark : Char) (text : Text) : Text := text.map fun c => if c = mark then '\n' else c

def isSolid (text : Text) : Bool := !text.isEmpty

section fields

variable {isMark isMark' : Char → Bool}

/-- Fields of fields are the fields between the marks of both kinds. -/
theorem flatMap_fields (text : Text) :
    (fields isMark text).flatMap (fields isMark') = fields (fun c => isMark c || isMark' c) text := by
  induction text with
  | nil => rfl
  | cons c rest ih =>
    obtain ⟨first, further, parted⟩ := List.exists_cons_of_ne_nil (@fields_ne_nil isMark rest)
    rw [parted, List.flatMap_cons] at ih
    rw [fields, fields]
    cases breaks : isMark c with
    | true =>
      rw [if_pos rfl, Bool.true_or, if_pos rfl, List.flatMap_cons, parted, List.flatMap_cons, ih]
      rfl
    | false =>
      rw [if_neg Bool.false_ne_true, Bool.false_or, parted, consFirst, List.flatMap_cons, fields, ← ih]
      split
      · rfl
      · exact (consFirst_append c (fields_ne_nil first) _).symm

/-- Marks may be put in the place of marks. -/
theorem fields_map {f : Char → Char} (same : ∀ c, isMark (f c) = isMark c) (kept : ∀ c, isMark c = false → f c = c)
    (text : Text) : fields isMark (text.map f) = fields isMark text := by
  induction text with
  | nil => rfl
  | cons c rest ih =>
    rw [List.map_cons, fields, fields, same, ih]
    cases marks : isMark c with
    | true => rfl
    | false => rw [kept c marks]

end fields

section silent

variable {f : Text → List α} (silent : f [] = [])
include silent

theorem flatMap_eq_headD (pieces : List Text) : pieces.flatMap f = f (pieces.headD []) ++ pieces.tail.flatMap f := by
  cases pieces with
  | nil => simp [silent]
  | cons first rest => exact List.flatMap_cons

theorem flatMap_congr_of_tail {pieces pieces' : List Text}
    (same : pieces.headD [] = pieces'.headD [] ∧ pieces.tail.flatMap f = pieces'.tail.flatMap f) :
    pieces.flatMap f = pieces'.flatMap f := by
  rw [flatMap_eq_headD silent, same.1, same.2, ← flatMap_eq_headD silent]

/-- The first line is told apart from the others, because a character before the text goes on with it. -/
theorem physicalLines_headD_tail (text : Text) :
    (physicalLines text).headD [] = (fields isLineBreak text).headD [] ∧
      (physicalLines text).tail.flatMap f = (fields isLineBreak text).tail.flatMap f := by
  induction text using physicalLines.induct with
  | case1 => exact ⟨rfl, rfl⟩
  | case2 rest ih =>
    refine ⟨rfl, ?_⟩
    change (physicalLines rest).flatMap f = ([] :: fields isLineBreak rest).flatMap f
    rw [List.flatMap_cons, silent, List.nil_append]
    exact flatMap_congr_of_tail silent ih
  | case3 c rest apart breaks ih =>
    rw [physicalLines.eq_3 _ _ apart, fields, if_pos breaks, if_pos breaks]
    exact ⟨rfl, flatMap_congr_of_tail silent ih⟩
  | case4 c rest apart plain ih =>
    rw [Bool.not_eq_true] at plain
    rw [physicalLines_cons plain, fields, plain, if_neg Bool.false_ne_true]
    obtain ⟨field, further, parted⟩ := List.exists_cons_of_ne_nil (@fields_ne_nil isLineBreak rest)
    rw [parted] at ih ⊢
    -- A text that is empty has a field, but no line.
    cases lines : physicalLines rest with
    | nil =>
      rw [lines] at ih
      obtain ⟨rfl, none⟩ := ih
      exact ⟨rfl, none⟩
    | cons first others =>
      rw [lines] at ih
      obtain ⟨rfl, same⟩ := ih
      exact ⟨rfl, same⟩

/-- Empty lines aside, physical lines are the fields between line breaks. -/
theorem flatMap_physicalLines (text : Text) : (physicalLines text).flatMap f = (fields isLineBreak text).flatMap f :=
  flatMap_congr_of_tail silent (physicalLines_headD_tail silent text)

end silent

/-- The lines of a text that are not blank. -/
def solidLines (mark : Char) (text : Text) : List Text :=
  ((fields (fun c => isLineBreak c || c = mark) text).map trim).filter isSolid

theorem filter_logicalLinesFrom (mark : Char) (start : Nat) (text : Text) :
    ((logicalLinesFrom mark start text).map (·.text)).filter isSolid = solidLines mark text := by
  have silent : ((pieces [mark] []).map trim).filter isSolid = [] := rfl
  rw [texts_logicalLinesFrom, List.map_flatMap, List.filter_flatMap, flatMap_physicalLines silent]
  simp only [pieces_eq_fields]
  rw [← List.filter_flatMap, ← List.map_flatMap, flatMap_fields]
  rfl

theorem solidLines_withLineFeeds (mark : Char) (text : Text) :
    solidLines mark (text.withLineFeeds mark) = solidLines mark text := by
  have feed : isLineBreak '\n' = true := rfl
  rw [solidLines, withLineFeeds, fields_map]
  · rfl
  · intro c
    by_cases divides : c = mark
    · simp [divides, feed]
    · rw [if_neg divides]
  · intro c plain
    refine if_neg fun divides => ?_
    simp [divides] at plain

end Text

/-- What was found, without the lines where. -/
def ImportResult.findings (result : ImportResult) : List Region × List (Text × IssueKind × Text) :=
  (result.regions, result.issues.map fun issue => (issue.shape, issue.kind, issue.message))

namespace ImportState

/-- The state with every issue reported at line zero. -/
def unnumbered (state : ImportState) : ImportState := { state with issues := state.issues.map ({ · with line := 0 }) }

theorem unnumbered_add (state : ImportState) (part : ImportResult) :
    (state.add part).unnumbered = state.unnumbered.add (part.renumbered 0) := by
  simp [unnumbered, add, ImportResult.renumbered]

theorem unnumbered_before (state : ImportState) (line : Text) :
    (state.before line).unnumbered = state.unnumbered.before line := by
  rw [before, before]
  split <;> rfl

theorem findings_unnumbered (state : ImportState) : state.unnumbered.result.findings = state.result.findings := by
  simp [unnumbered, result, ImportResult.findings]

end ImportState

namespace Import

/-- An outcome whose issues are all reported at line zero. -/
def unnumber (outcome : Except Interruption PUnit.{1} × ImportState) : Except Interruption PUnit.{1} × ImportState :=
  (outcome.1, outcome.2.unnumbered)

theorem unnumber_added (state : ImportState) (result : Except Interruption ImportResult) :
    unnumber (added state result) = added state.unnumbered (result.map (·.renumbered 0)) := by
  cases result with
  | error interruption => rfl
  | ok part => exact congrArg (Prod.mk _) (state.unnumbered_add part)

theorem unnumber_learnt (state : ImportState) (named : Except Fault Text) :
    unnumber (learnt state named) = learnt state.unnumbered named := by
  cases named <;> rfl

variable [UnitLibrary]

theorem lineResult_renumbered (mode? : Option PositionMode) (fileId first number : Int) (line : Text) :
    (·.renumbered number) <$> lineResult mode? fileId first line = lineResult mode? fileId number line := by
  simp only [lineResult]
  cases LineKind.ofLine line with
  | frame =>
    simp only [declarationResult]
    cases (Frame.ofKeyword (Frame.keywordOf line)).mode? <;> rfl
  | shape =>
    cases mode? with
    | none => rfl
    | some mode => exact shapeResult_renumbered mode fileId first number line
  | _ => rfl

/-- No line is read in the light of its number, nor of the issues before it. -/
theorem importLine_unnumbered (state : ImportState) (number : Int) (line : Text) :
    unnumber <$> (importLine number line).run.run state = (importLine 0 line).run.run state.unnumbered := by
  cases sky : declaresSky line with
  | false =>
    rw [importLine_run sky, importLine_run sky]
    change _ = added (state.unnumbered.before line) <$> (lineResult state.currentMode? state.fileId 0 line).run
    rw [← lineResult_renumbered _ _ number 0, ExceptT.run_map, Functor.map_map, Functor.map_map, ← ImportState.unnumbered_before]
    exact map_congr fun result => unnumber_added _ result
  | true =>
    rw [declaresSky, Bool.and_eq_true, decide_eq_true_iff] at sky
    obtain ⟨kind, sky⟩ := sky
    simp only [importLine, kind, declare_run_sky sky, learnFrame_run]
    have alike (frame : Frame) : (state.unnumbered.declared frame).imageFrame = (state.declared frame).imageFrame := rfl
    rw [alike]
    split
    · rw [Functor.map_map]
      exact map_congr fun named => unnumber_learnt _ named
    · rfl

theorem importEach_unnumbered (state : ImportState) (lines : List LogicalLine) :
    unnumber <$> (lines.forM fun line => importLine line.number line.text.trim).run.run state =
      ((lines.map (·.text)).forM fun text => importLine 0 text.trim).run.run state.unnumbered := by
  induction lines generalizing state with
  | nil => rfl
  | cons line rest ih =>
    rw [List.map_cons, List.forM, List.forM, run_bind, run_bind, ← importLine_unnumbered state line.number, map_bind,
      bind_map_left]
    congr 1
    funext outcome
    obtain ⟨outcome, after⟩ := outcome
    cases outcome with
    | error interruption => rfl
    | ok done => exact ih after

/-- Blank lines do nothing. -/
theorem forM_filter_isSolid (texts : List Text) :
    ((texts.filter isSolid).forM fun text => importLine 0 text.trim) = texts.forM fun text => importLine 0 text.trim := by
  induction texts with
  | nil => rfl
  | cons text rest ih =>
    cases text with
    | nil =>
      have idle : importLine 0 (trim []) = pure ⟨⟩ := rfl
      rw [List.forM, idle, pure_bind, ← ih]
      rfl
    | cons c text =>
      rw [List.filter_cons_of_pos rfl, List.forM, List.forM, ih]

/-- What is found in a text is what is found in its lines that are not blank, whatever their numbers are. -/
theorem ofText_findings (fileId : Int) (mark : Char) (text : Text) :
    (·.map (·.findings)) <$> (ofText fileId [mark] text).run = (fun outcome => outcome.1.map fun _ => outcome.2.result.findings) <$>
      ((solidLines mark text).forM fun text => importLine 0 text.trim).run.run { fileId } := by
  have starts : ofText fileId [mark] text = start fileId (importLines [] (logicalLinesFrom mark 1 text)) := by
    rw [ofText, logicalLines?_eq]
  have each := importEach_unnumbered { fileId } (logicalLinesFrom mark 1 text)
  rw [← forM_filter_isSolid, filter_logicalLinesFrom] at each
  change _ = _ <$> (_ : Importing PUnit).run.run (ImportState.unnumbered { fileId })
  rw [starts, start_run, ← each, Functor.map_map, Functor.map_map]
  refine map_congr fun outcome => ?_
  rw [unnumber, ImportState.findings_unnumbered]
  cases outcome.1 <;> rfl

/-- A text with line feeds in the place of its delimiters comes to the same regions and to the same issues in the same order,
or to the same interruption, and the image is asked the same. Only the lines that the issues are about may be others. -/
theorem ofText_withLineFeeds (image : Image) (fileId : Int) (mark : Char) (text : Text) (asked : List Query) :
    let outcome := fun text => (ofText fileId [mark] text).run.run image asked
    (outcome (text.withLineFeeds mark)).1.map (·.findings) = (outcome text).1.map (·.findings) ∧
      (outcome (text.withLineFeeds mark)).2 = (outcome text).2 := by
  have same := ofText_findings fileId mark (text.withLineFeeds mark)
  rw [solidLines_withLineFeeds, ← ofText_findings] at same
  have runs := congrArg (·.run image asked) same
  simpa only [Dialogue.run_map, Prod.mk.injEq] using runs

end Import
end SkyRegion
