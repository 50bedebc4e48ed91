import SkyRegion.CommonUnits.Library
import SkyRegion.Proofs.ImportRun
import SkyRegion.Proofs.Trimming

/-! An import without its state. What a line contributes is settled by the line and by the last declaration
before it, and is what the line would contribute if it were imported alone under that declaration. -/

namespace SkyRegion

open Image Text

theorem Frame.keywordOf_trim (line : Text) : Frame.keywordOf line.trim = Frame.keywordOf line := by
  rw [Frame.keywordOf, Frame.keywordOf, trim_trim]

namespace ImportResult

@[simp] theorem append_empty (result : ImportResult) : result ++ .empty = result := by
  change ImportResult.mk _ _ = _
  simp [empty]

@[simp] theorem empty_append (result : ImportResult) : .empty ++ result = result := rfl

theorem append_assoc (first second third : ImportResult) : first ++ second ++ third = first ++ (second ++ third) := by
  change mk _ _ = mk _ _
  simp only [append_regions, append_issues, List.append_assoc]

def concat (parts : List ImportResult) : ImportResult :=
  ⟨parts.flatMap (·.regions), parts.flatMap (·.issues)⟩

theorem concat_cons (part : ImportResult) (rest : List ImportResult) : concat (part :: rest) = part ++ concat rest := rfl

/-- The same result, with every issue reported at one line. -/
def renumbered (number : Int) (result : ImportResult) : ImportResult :=
  { result with issues := result.issues.map ({ · with line := number }) }

end ImportResult

namespace Import

/-- The last of some lines that declares a frame. -/
def latestDeclaration? (lines : List Text) : Option Text :=
  lines.reverse.find? fun line => LineKind.ofLine line.trim = .frame

/-- Whether shapes are read under a declaration. Without one they are. -/
def isSupported (declaration? : Option Text) : Bool :=
  declaration?.all fun line => Frame.ofKeyword (Frame.keywordOf line) ≠ .unsupported

/-- What a line contributes to an import in which a declaration is the latest one before it. -/
def contribution [UnitLibrary] (fileId : Int) (declaration? : Option Text) (number : Int) (line : Text) :
    ExceptT Interruption Dialogue ImportResult :=
  match LineKind.ofLine line.trim with
  | .frame =>
    let keyword := Frame.keywordOf line
    pure <| if isSupported (some line) then .empty else ⟨[], [.ofComplaint number keyword (.unsupportedFrame keyword)]⟩
  | .shape =>
    if isSupported declaration? then
      (·.renumbered number) <$> Import.ofLines fileId (declaration?.getD []) [line]
    else pure .empty
  | _ => pure .empty

/-- Every line is read alone, and the contributions are put together in the order of the lines. -/
def lineByLine [UnitLibrary] (fileId : Int) (lines : List Text) : ExceptT Interruption Dialogue ImportResult :=
  ImportResult.concat <$> lines.zipIdx.mapM fun (line, index) =>
    contribution fileId (latestDeclaration? (lines.take index)) (index + 1) line

variable {image : Image}

def declaredMode? : Option Text → Option PositionMode
  | none => some .pixels
  | some line => (Frame.ofKeyword (Frame.keywordOf line)).mode?

theorem mode?_isSome (frame : Frame) : frame.mode?.isSome = decide (frame ≠ .unsupported) := by
  cases frame <;> rfl

theorem declaredMode?_isSome (declaration? : Option Text) :
    (declaredMode? declaration?).isSome = isSupported declaration? := by
  cases declaration? with
  | none => rfl
  | some line => exact mode?_isSome _

theorem declarationResult_trim (number : Int) (line : Text) :
    declarationResult number line.trim =
      if isSupported (some line) then .empty
      else ⟨[], [.ofComplaint number (Frame.keywordOf line) (.unsupportedFrame (Frame.keywordOf line))]⟩ := by
  rw [declarationResult, Frame.keywordOf_trim, ← declaredMode?_isSome, declaredMode?]
  cases (Frame.ofKeyword (Frame.keywordOf line)).mode? <;> rfl

theorem modeAfter_trim (declaration? : Option Text) (line : Text) :
    modeAfter (declaredMode? declaration?) line.trim =
      declaredMode? (if LineKind.ofLine line.trim = .frame then some line else declaration?) := by
  rw [modeAfter, Frame.keywordOf_trim]
  split <;> rfl

theorem latestDeclaration?_concat (before : List Text) (line : Text) :
    latestDeclaration? (before ++ [line]) =
      if LineKind.ofLine line.trim = .frame then some line else latestDeclaration? before := by
  rw [latestDeclaration?, List.reverse_append, List.reverse_singleton, List.singleton_append, List.find?_cons]
  by_cases declares : LineKind.ofLine line.trim = .frame <;> simp [declares, latestDeclaration?]

theorem shapeResult_renumbered [UnitLibrary] (mode : PositionMode) (fileId first number : Int) (line : Text) :
    (·.renumbered number) <$> shapeResult mode fileId first line = shapeResult mode fileId number line := by
  simp only [shapeResult]
  cases (Definition.ofText line).tokens with
  | nil => rfl
  | cons word arguments =>
    simp only
    cases ShapeKeyword.ofLine? (withoutSign word) arguments with
    | none => rfl
    | some keyword =>
      apply ExceptT.ext
      rw [ExceptT.run_map, ExceptT.run_mk, ExceptT.run_mk, ← comp_map]
      congr 1
      funext result
      rcases result with (complaint | interruption) | region <;> rfl

theorem initial_of_supported {declaration? : Option Text} (supported : isSupported declaration? = true) :
    initialResult (declaration?.getD []) = .empty ∧
      initialMode? (declaration?.getD []) = declaredMode? declaration? := by
  rw [← declaredMode?_isSome] at supported
  match declaration?, supported with
  | none, _ => exact ⟨rfl, rfl⟩
  | some (c :: rest), supported =>
    obtain ⟨mode, known⟩ := Option.isSome_iff_exists.mp supported
    rw [declaredMode?] at known
    simp [initialResult, initialMode?, declarationResult, declaredMode?, known]

section

variable [UnitLibrary]

theorem contribution_matches (names : image.NamesFrame) (ignores : image.IgnoresFrameQueries) (fileId : Int)
    (declaration? : Option Text) (number : Int) (line : Text) :
    (contribution fileId declaration? number line).run.Matches image (· = ·)
      (lineResult (declaredMode? declaration?) fileId number line.trim).run := by
  cases kind : LineKind.ofLine line.trim with
  | frame =>
    simp only [contribution, lineResult, kind, declarationResult_trim]
    exact .pure rfl
  | shape =>
    simp only [contribution, kind]
    by_cases supported : isSupported declaration? = true
    · obtain ⟨clean, starts⟩ := initial_of_supported supported
      obtain ⟨mode, known⟩ := Option.isSome_iff_exists.mp ((declaredMode?_isSome _).trans supported)
      have alone := ofLines_matches names ignores fileId (declaration?.getD []) [line]
      have single : linesResult fileId (some mode) [⟨1, line⟩] = shapeResult mode fileId 1 line.trim := by
        simp [linesResult, lineResult, kind]
      simp only [clean, starts, known, ImportResult.empty_append, id_map', List.zipIdx_singleton, List.map_singleton,
        single] at alone
      simp only [supported, if_true, known, lineResult, kind]
      rw [← shapeResult_renumbered mode fileId 1 number]
      exact alone.mapped _
    · have poisoned : declaredMode? declaration? = none := by
        rw [← Option.not_isSome_iff_eq_none, declaredMode?_isSome]
        exact supported
      simp only [supported, poisoned, lineResult, kind]
      exact .pure rfl
  | _ =>
    simp only [contribution, lineResult, kind]
    exact .pure rfl

/-- The lines before are held fixed; what they leave behind is the latest declaration among them. -/
theorem lineByLine_matches_from (names : image.NamesFrame) (ignores : image.IgnoresFrameQueries) (fileId : Int)
    (before rest : List Text) :
    (ImportResult.concat <$> (rest.zipIdx before.length).mapM fun (line, index) =>
      contribution fileId (latestDeclaration? ((before ++ rest).take index)) (index + 1) line).run.Matches image (· = ·)
      (linesResult fileId (declaredMode? (latestDeclaration? before))
        ((rest.zipIdx (before.length + 1)).map fun (line, number) => ⟨number, line⟩)).run := by
  induction rest generalizing before with
  | nil => exact .pure rfl
  | cons line rest ih =>
    have further := ih (before ++ [line])
    rw [List.length_append, List.length_singleton, List.append_assoc, List.singleton_append,
      latestDeclaration?_concat, ← modeAfter_trim] at further
    simp only [List.zipIdx_cons, List.map_cons, List.mapM_cons, map_bind, map_pure, ImportResult.concat_cons,
      linesResult, List.take_left]
    rw [ExceptT.run_bind, ExceptT.run_bind]
    refine .bind (contribution_matches names ignores fileId _ _ line) ?_
    rintro (interruption | part) _ rfl
    · exact .pure rfl
    · have extended (parts : ExceptT Interruption Dialogue (List ImportResult)) :
          (fun results => part ++ ImportResult.concat results) <$> parts =
            (part ++ ·) <$> ImportResult.concat <$> parts := (Functor.map_map ..).symm
      simp only [bind_pure_comp, extended]
      exact further.mapped _

/-- An import is the reading of its lines one by one: no line is read in the light of more than the latest
declaration before it. An image that answers differently once it was asked for its frame is left out, since
reading a line alone asks again. -/
theorem ofLines_eq_lineByLine (names : image.NamesFrame) (ignores : image.IgnoresFrameQueries) (fileId : Int)
    (lines : List Text) (asked : List Query) :
    ((ofLines fileId [] lines).run.run image asked).1 = ((lineByLine fileId lines).run.run image asked).1 := by
  have whole := ofLines_matches names ignores fileId [] lines
  have parts := lineByLine_matches_from names ignores fileId [] lines
  simp only [initialResult, initialMode?, List.isEmpty_nil, if_true, ImportResult.empty_append, id_map'] at whole
  exact (whole asked asked rfl).1.trans (parts asked asked rfl).1.symm

end

section

open CommonUnits

theorem lineByLine_around_stretch :
    let lines := ["fk5", "point(10,20)", "wcs", "point(1,2)", "image", "point(3,4)"].map (·.toList)
    plane.NamesFrame ∧ plane.IgnoresFrameQueries ∧
      ((ofLines 7 [] lines).run.run plane []).1 = ((lineByLine 7 lines).run.run plane []).1 :=
  ⟨plane_namesFrame, plane_ignoresFrameQueries,
    ofLines_eq_lineByLine plane_namesFrame plane_ignoresFrameQueries 7 _ []⟩

end

end Import
end SkyRegion
