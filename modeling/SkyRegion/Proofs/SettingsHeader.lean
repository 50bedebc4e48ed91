import SkyRegion.Proofs.DividedText
import SkyRegion.Proofs.Numerals
import SkyRegion.Proofs.QuietHeader
import SkyRegion.Proofs.SkyDeclarations

/-! Headers of files under settings that were checked. A version, a color and a font stand in the header as they are, and
what line breaks and delimiters cut off from them is read by itself; apart from that nothing comes of a header. -/

namespace SkyRegion

open Image Text

namespace Settings

variable {settings : Settings}

/-- The style defaults with the color and the font of the settings. -/
def defaults (settings : Settings) : Style := { color := settings.globalColor, font := settings.globalFont }

/-- What is cut off from the lines of a header. -/
def cutOff (settings : Settings) : List Text :=
  Text.cutOff ';' settings.formatVersion ++ Text.cutOff ';' settings.defaults.line

theorem globals_ne_nil (valid : settings.check = .ok settings) : settings.globalColor ≠ [] ∧ settings.globalFont ≠ [] := by
  simp only [check, refuse] at valid
  split_ifs at valid with version single reserved color font
  constructor
  · intro none
    rw [none] at color
    exact color rfl
  · intro none
    rw [none] at font
    exact font rfl

/-- A color and a font that are not blank make a style. -/
theorem style_eq (valid : settings.check = .ok settings) : settings.style = .ok settings.defaults := by
  obtain ⟨color, font⟩ := globals_ne_nil valid
  rw [style, defaults]
  cases named : settings.globalColor with
  | nil => exact absurd named color
  | cons c rest =>
    cases named' : settings.globalFont with
    | nil => exact absurd named' font
    | cons c' rest' => rfl

/-- The lines of a header among pixels. -/
def headerLines (settings : Settings) : List Text :=
  [Writer.banner settings.formatVersion, settings.defaults.line, "physical".toList]

end Settings

namespace Writer

variable {settings : Settings}

theorem create_of_check (valid : settings.check = .ok settings) (hasImage : Bool) : create settings .pixel hasImage =
    pure ⟨.pixel, "physical".toList, .pixel, settings.headerLines.map (· ++ ['\n']), 0⟩ := by
  have lines : header settings "physical".toList = .ok (settings.headerLines.map (· ++ ['\n'])) := by
    rw [header, Settings.style_eq valid]
    rfl
  rw [create, lines]
  rfl

end Writer

namespace Import

variable {image : Image} {settings : Settings} {fileId : Int}

/-- The logical lines of a header. -/
def headerLogical (settings : Settings) : List LogicalLine :=
  logicalLinesFrom ';' 1 (settings.headerLines.map (· ++ ['\n'])).flatten

theorem banner_parts (version : Text) : ∃ first, LineKind.ofLine first = .comment ∧
    (parts ';' (Writer.banner version)).map trim = first :: Text.cutOff ';' version := by
  obtain ⟨front, cut, divided, _⟩ := exists_parts ';' version
  have whole : parts ';' (Writer.banner version) = _ :: cut :=
    parts_append (forall_mem_of_all (by decide)) (by decide) divided
  refine ⟨_, ?_, by rw [whole, Text.cutOff, divided]; rfl⟩
  change LineKind.ofLine (trimWhere isBlank ('#' :: _)) = _
  rw [trimWhere_cons (by decide)]
  rfl

theorem style_parts (style : Style) : ∃ first, LineKind.ofLine first = .style ∧
    (parts ';' style.line).map trim = first :: Text.cutOff ';' style.line := by
  obtain ⟨rest, line⟩ : ∃ rest, style.line = "global color=".toList ++ rest := by
    unfold Style.line
    simp only [List.append_assoc]
    exact ⟨_, rfl⟩
  obtain ⟨front, cut, divided, _⟩ := exists_parts ';' rest
  have whole : parts ';' ("global color=".toList ++ rest) = _ :: cut :=
    parts_append (forall_mem_of_all (by decide)) (by decide) divided
  refine ⟨_, ?_, by rw [line, Text.cutOff, whole]; rfl⟩
  change LineKind.ofLine (trimWhere isBlank ('g' :: ("lobal color".toList ++ '=' :: front))) = _
  rw [trimWhere_append (by decide) (by decide)]
  rfl

theorem headerLogical_texts (settings : Settings) : ∃ comment style, LineKind.ofLine comment = .comment ∧
    LineKind.ofLine style = .style ∧ (headerLogical settings).map (·.text) =
      comment :: (Text.cutOff ';' settings.formatVersion ++ style :: (Text.cutOff ';' settings.defaults.line ++
        ["physical".toList])) := by
  obtain ⟨comment, isComment, first⟩ := banner_parts settings.formatVersion
  obtain ⟨style, isStyle, second⟩ := style_parts settings.defaults
  have physical : (parts ';' "physical".toList).map trim = ["physical".toList] := by decide +kernel
  have text : (settings.headerLines.map (· ++ ['\n'])).flatten = Writer.banner settings.formatVersion ++
      '\n' :: (settings.defaults.line ++ '\n' :: ("physical".toList ++ ['\n'])) := by
    simp [Settings.headerLines]
  refine ⟨comment, style, isComment, isStyle, ?_⟩
  rw [headerLogical, text, logicalLinesFrom_append_text, logicalLinesFrom_append_text, logicalLinesFrom_text, physical,
    first, second]
  rfl

/-- The first parts of the lines of a header, and its last line, are known; the rest was cut off from them. -/
theorem forall_headerLogical_iff {holds : Text → Prop} (comment : ∀ line, LineKind.ofLine line = .comment → holds line)
    (style : ∀ line, LineKind.ofLine line = .style → holds line) (physical : holds "physical".toList) :
    (∀ line ∈ headerLogical settings, holds line.text.trim) ↔ ∀ part ∈ settings.cutOff, holds part := by
  obtain ⟨first, second, isComment, isStyle, texts⟩ := headerLogical_texts settings
  have trimmed : ∀ line ∈ headerLogical settings, line.text.trim = line.text := logicalLinesFrom_trimmed _ _ _
  have each : (∀ line ∈ headerLogical settings, holds line.text.trim) ↔
      ∀ text ∈ (headerLogical settings).map (·.text), holds text := by
    rw [List.forall_mem_map]
    exact forall₂_congr fun line listed => by rw [trimmed line listed]
  rw [each, texts, Settings.cutOff]
  simp only [List.forall_mem_cons, List.forall_mem_append, comment _ isComment, style _ isStyle, physical,
    List.not_mem_nil, false_implies, implies_true, true_and, and_true]

theorem modeAfterAll_headerLogical (settings : Settings) :
    modeAfterAll (some .pixels) (headerLogical settings) = some .pixels := by
  have declares : Declares "physical".toList .pixels := by decide +kernel
  obtain ⟨before, number, last⟩ :=
    declares.logicalLinesFrom_ending (Writer.banner settings.formatVersion ++ '\n' :: settings.defaults.line)
  have whole : (settings.headerLines.map (· ++ ['\n'])).flatten =
      (Writer.banner settings.formatVersion ++ '\n' :: settings.defaults.line) ++ '\n' :: ("physical".toList ++ ['\n']) := by
    simp [Settings.headerLines]
  rw [headerLogical, whole, last, modeAfterAll, List.foldl_append, List.foldl_cons, List.foldl_nil, trim_trim,
    declares.modeAfter]

/-- An import that has found nothing so far, and reads on among pixels. -/
def IsFresh (outcome : Except Interruption PUnit.{1} × ImportState) : Prop :=
  ∃ state, outcome = (.ok ⟨⟩, state) ∧ state.result = ⟨[], []⟩ ∧ state.accepting = true ∧ state.pixelMode = true

theorem isFresh_of_continues {outcome : Except Interruption PUnit.{1} × ImportState}
    (continues : Continues { fileId } (some .pixels) outcome (.ok .empty)) : IsFresh outcome := by
  obtain ⟨outcome | outcome, state⟩ := outcome
  · exact continues.elim
  · obtain ⟨_, reads, regions, issues⟩ := continues
    obtain ⟨accepting, pixels⟩ := currentMode?_eq_some reads
    refine ⟨state, rfl, ?_, accepting, ?_⟩
    · rw [ImportState.result, regions, issues]
      rfl
    · rw [ImportState.mode] at pixels
      split at pixels
      · assumption
      · cases pixels

/-- An import that ends among pixels has found nothing exactly if its lines are quiet. -/
theorem importEach_isFresh_iff [UnitLibrary] (names : image.NamesFrame) {lines : List LogicalLine}
    (mode : modeAfterAll (some .pixels) lines = some .pixels) (fileId : Int) (asked : List Query) :
    IsFresh (((lines.forM fun line => importLine line.number line.text.trim).run.run { fileId }).run image asked).1 ↔
      ∀ line ∈ lines, isQuiet line.text.trim = true := by
  constructor
  · rintro ⟨state, same, found, _⟩
    obtain ⟨result, continues, quiet⟩ := @importEach_adds image { fileId } _ names lines asked
    rw [same] at continues
    cases result with
    | error interruption => exact continues.elim
    | ok part =>
      obtain ⟨_, _, regions, issues⟩ := continues
      rw [ImportState.result, ImportResult.mk.injEq] at found
      refine quiet rfl (congrArg Except.ok ?_)
      rw [found.1, List.nil_append] at regions
      rw [found.2, List.nil_append] at issues
      rw [ImportResult.empty, regions, issues]
  · intro quiet
    have continues := (@importEach_quiet image { fileId } _ names lines quiet).ensures asked
    change Continues _ (modeAfterAll (some .pixels) lines) _ _ at continues
    rw [mode] at continues
    exact isFresh_of_continues continues

/-- Nothing comes of a header exactly if all parts that are cut off in it are quiet. The image is asked for its frame only
where one of them declares a frame of the sky. -/
theorem header_isFresh_iff [UnitLibrary] (valid : settings.check = .ok settings) (usual : settings.lineDelimiter = [';'])
    (hasImage : Bool) : ∃ writer logical, Writer.create settings .pixel hasImage = pure writer ∧ writer.lines.length = 3 ∧
      logicalLines? settings.lineDelimiter writer.lines.flatten = some logical ∧
        ∀ (image : Image) (fileId : Int) (asked : List Query),
          (image.NamesFrame ∨ ∀ part ∈ settings.cutOff, declaresSky part = false) →
            (IsFresh (((importLines [] logical).run.run { fileId }).run image asked).1 ↔
              ∀ part ∈ settings.cutOff, isQuiet part = true) := by
  refine ⟨_, headerLogical settings, Writer.create_of_check valid hasImage, rfl, ?_, ?_⟩
  · rw [usual, logicalLines?_eq]
    rfl
  · intro image fileId asked known
    have mode := modeAfterAll_headerLogical settings
    have quiet := @forall_headerLogical_iff settings (isQuiet · = true) (fun line kind => by simp [isQuiet, kind])
      (fun line kind => by simp [isQuiet, kind]) (by decide +kernel)
    have each : importLines [] (headerLogical settings) =
      (headerLogical settings).forM fun line => importLine line.number line.text.trim := rfl
    rw [← quiet, each]
    cases known with
    | inl names => exact importEach_isFresh_iff names mode fileId asked
    | inr plain =>
      -- An import without a question comes to the same on every image.
      have silent := (@forall_headerLogical_iff settings (declaresSky · = false) (fun line kind => by simp [declaresSky, kind])
        (fun line kind => by simp [declaresSky, kind]) (by decide +kernel)).mpr plain
      have off : IsOffSky ({ fileId } : ImportState).currentMode? := fun frame same => by cases same
      obtain ⟨outcome, run⟩ := importEach_asks silent off
      have onPlane := importEach_isFresh_iff plane_namesFrame mode fileId asked
      rw [run] at onPlane ⊢
      exact onPlane

section

open CommonUnits

theorem header_isFresh_divided :
    let settings : Settings := { formatVersion := "1.0\n# draft".toList, globalFont := "times;bold 12".toList }
    settings.check = .ok settings ∧ settings.lineDelimiter = [';'] ∧ ∃ writer logical,
      Writer.create settings .pixel false = pure writer ∧
        logicalLines? settings.lineDelimiter writer.lines.flatten = some logical ∧
          IsFresh (((importLines [] logical).run.run { fileId := 0 }).run plane []).1 := by
  intro settings
  have valid : settings.check = .ok settings := by decide +kernel
  have plain : ∀ part ∈ settings.cutOff, declaresSky part = false := by decide +kernel
  have quiet : ∀ part ∈ settings.cutOff, isQuiet part = true := by decide +kernel
  obtain ⟨writer, logical, created, _, split, fresh⟩ := header_isFresh_iff valid rfl false
  exact ⟨valid, rfl, writer, logical, created, split, (fresh plane 0 [] (.inr plain)).mpr quiet⟩

/-- A font with a delimiter in it is read as a region. -/
theorem header_read_as_region :
    let settings : Settings := { globalFont := ";point 1 2#".toList }
    settings.check = .ok settings ∧ settings.lineDelimiter = [';'] ∧ ∃ writer,
      Writer.create settings .pixel false = pure writer ∧
        (imported plane [] 0 writer.lines.flatten).1 = .ok ⟨[⟨.point, [⟨1, 2⟩], 0, [], 0⟩], []⟩ := by
  intro settings
  have valid : settings.check = .ok settings := by decide +kernel
  refine ⟨valid, rfl, _, Writer.create_of_check valid false, ?_⟩
  decide +kernel

end

end Import
end SkyRegion
