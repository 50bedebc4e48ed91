import SkyRegion.Proofs.DividedText
import SkyRegion.Proofs.QuietHeader
import SkyRegion.Proofs.Reimport

/-! Regions written under any names and imported again. A name that is divided is read in parts: the first of them still
belongs to the line of its region, and nothing comes of the others as long as they are inert. -/

namespace SkyRegion

open Image Text

namespace ImportState

theorem add_add (state : ImportState) (first second : ImportResult) :
    (state.add first).add second = state.add (first ++ second) := by
  simp [add]

end ImportState

theorem isToken_of_mem_notNumbers : ∀ text ∈ notNumbers, IsToken text := by
  have each : ∀ text ∈ notNumbers, text ≠ [] ∧ text.all isTokenMark = true := by decide
  intro text listed
  obtain ⟨present, marks⟩ := each text listed
  exact ⟨present, List.all_eq_true.mp marks⟩

theorem quantity_of_mem_notNumbers [UnitLibrary] (shape : Text) (place : Unit) (latitude : Bool) : ∀ text ∈ notNumbers,
    Token.quantity shape place latitude text = .error (.complaint (.notNumeric shape text)) := by
  have each : ∀ text ∈ notNumbers, Token.afterNumeral? text = none := by decide
  intro text listed
  simp only [Token.quantity, Token.checked, Token.nameUnit, each text listed]
  rfl

namespace Region

/-- What comes of the line of a region: nothing if its name hides it, a complaint if its angle is no number, and else the
region, under a label that is read from its name. -/
inductive Yields (region : Region) : ImportResult → Prop
  | hidden (named : holds "global".toList region.name = true) : Yields region ⟨[], []⟩
  | unread {keyword : ShapeKeyword} {arguments : List Text} {angle : Number} (unread : region.IsUnread keyword arguments angle)
      (number : Int) : Yields region ⟨[], [.ofComplaint number keyword.name (.notNumeric keyword.name angle.angleText)]⟩
  | found {label : Text} {region' : Region} (rereads : Rereads { region with name := label } region') :
      Yields region ⟨[region'], []⟩

theorem Yields.length_le {region : Region} {part : ImportResult} (yields : region.Yields part) :
    part.regions.length ≤ 1 := by
  cases yields with
  | hidden | unread => exact Nat.zero_le 1
  | found => exact Nat.le_refl 1

theorem length_concat_le {regions : List Region} {parts : List ImportResult} (yields : List.Forall₂ Yields regions parts) :
    (ImportResult.concat parts).regions.length ≤ regions.length := by
  induction yields with
  | nil => exact Nat.le_refl 0
  | @cons region part regions parts first rest ih =>
    have one := first.length_le
    rw [ImportResult.concat_cons, ImportResult.append_regions, List.length_append, List.length_cons]
    omega

variable {region : Region} {keyword : ShapeKeyword} {arguments : List Text}

/-- How a region is written does not depend on its name. -/
theorem WrittenAs.labelled (written : region.WrittenAs keyword arguments) (label : Text) :
    WrittenAs { region with name := label } keyword arguments := by
  cases written with
  | point kind points => exact .point kind points
  | box kind points => exact .box kind points
  | circle kind points equal => exact .circle kind points equal
  | ellipse kind points unequal => exact .ellipse kind points unequal
  | polygon kind enough => exact .polygon kind enough

namespace IsUnread

variable {angle : Number} (unread : region.IsUnread keyword arguments angle)
include unread

theorem isToken : ∀ argument ∈ arguments, IsToken argument := by
  obtain ⟨x, y, width, height, rfl, plain⟩ := unread.form
  intro argument listed
  rcases List.mem_append.mp (show argument ∈ [x, y, width, height] ++ [angle.angleText] from listed) with front | last
  · exact (plain argument front).isToken
  · rw [List.mem_singleton.mp last]
    exact isToken_of_mem_notNumbers _ unread.refused

/-- An angle that is no number is complained of, whatever stands before it. -/
theorem read_eq [UnitLibrary] (mode : PositionMode) : Shape.read mode keyword keyword.name arguments =
    .error (.complaint (.notNumeric keyword.name angle.angleText)) := by
  obtain ⟨x, y, width, height, rfl, plain⟩ := unread.form
  simp only [List.forall_mem_cons] at plain
  obtain ⟨xPlain, yPlain, widthPlain, heightPlain, _⟩ := plain
  have refused := @Shape.readCentered_refused _ x y width height angle.angleText _ _ _ _ mode keyword.name _ xPlain.readsAs
    yPlain.readsAs widthPlain.readsAs heightPlain.readsAs
    fun place latitude => quantity_of_mem_notNumbers keyword.name place latitude _ unread.refused
  rcases unread.shaped with rfl | rfl
  · exact congrArg (· >>= _) refused
  · exact congrArg (· >>= _) refused

end IsUnread

/-- The first part of a line is a definition and what is left of the name; the other parts are cut off from the name. -/
theorem exists_parts_line (written : IsWritten region.definition keyword arguments) : ∃ tail,
    (parts ';' region.line).map trim = (region.definition ++ tail) :: cutOff ';' (region.name ++ ['}']) ∧ IsTail tail ∧
      (holds "global".toList tail = true → holds "global".toList region.name = true) := by
  have single c (member : c ∈ region.definition) := isLineBreak_of_isDefinitionMark (written.mem_marks member)
  have undivided := written.notMem (show isDefinitionMark ';' = false by decide)
  by_cases unnamed : region.name = []
  · have divided := parts_append single undivided (show parts ';' [] = [[]] by decide)
    rw [List.append_nil] at divided
    have trimmed := written.trim_append_rdropWhile []
    rw [List.append_nil] at trimmed
    refine ⟨[], ?_, ⟨.inl rfl, rfl⟩, fun held => absurd held (by decide)⟩
    rw [line, unnamed, labelled_nil, divided, List.map_singleton, trimmed]
    rfl
  · obtain ⟨first, rest, divided, leads⟩ := exists_parts ';' (region.name ++ ['}'])
    let opening : Text := " # text=\x7b".toList
    have whole : region.line = region.definition ++ (opening ++ (region.name ++ ['}'])) := by
      rw [line, labelled_eq unnamed]
      simp [opening]
    have opened : parts ';' (opening ++ (region.name ++ ['}'])) = (opening ++ first) :: rest :=
      parts_append (forall_mem_of_all (by decide)) (by decide) divided
    have kept : (opening ++ first).rdropWhile isBlank = opening ++ first.rdropWhile isBlank :=
      rdropWhile_append_cons (show isBlank '{' = false by decide) " # text=".toList first
    refine ⟨(opening ++ first).rdropWhile isBlank, ?_, ⟨.inr ⟨_, kept⟩, List.rdropWhile_idempotent _ _⟩, ?_⟩
    · rw [whole, parts_append single undivided opened, List.map_cons, written.trim_append_rdropWhile, cutOff, divided]
      rfl
    · intro held
      have split : opening ++ first.rdropWhile isBlank = " # text=".toList ++ '{' :: first.rdropWhile isBlank := rfl
      rw [kept, split, holds_append_of_notMem (by decide) (by decide), Bool.or_eq_true] at held
      have inside : first.rdropWhile isBlank <+: region.name ++ ['}'] := (List.rdropWhile_prefix _ _).trans leads
      have named := holds_of_isInfix inside.isInfix (held.resolve_left (by decide))
      rw [holds_append_of_notMem (by decide) (by decide), Bool.or_eq_true] at named
      exact named.resolve_right (by decide)

end Region

namespace Import

variable {state : ImportState} {region : Region} {keyword : ShapeKeyword} {arguments : List Text}

/-- A line of which nothing comes, and that declares no frame. -/
def isInert (line : Text) : Bool := isQuiet line && LineKind.ofLine line ≠ .frame

section

variable [UnitLibrary]

theorem importLine_inert {line : Text} (inert : isInert line = true) (number : Int) :
    (importLine number line).run.run state = pure (.ok ⟨⟩, state) := by
  rw [isInert, Bool.and_eq_true, decide_eq_true_eq] at inert
  exact importLine_idle inert.2 inert.1 number

theorem importEach_inert {lines : List LogicalLine} (inert : ∀ line ∈ lines, isInert line.text.trim = true) :
    (lines.forM fun line => importLine line.number line.text.trim).run.run state = pure (.ok ⟨⟩, state) := by
  induction lines with
  | nil => rfl
  | cons line rest ih =>
    rw [List.forall_mem_cons] at inert
    rw [List.forM, run_bind, importLine_inert inert.1, pure_bind]
    exact ih inert.2

theorem importLine_definition {tail : Text} (drawable : region.IsDrawable) (written : region.WrittenAs keyword arguments)
    (line : IsWritten region.definition keyword arguments) (isTail : IsTail tail)
    (named : holds "global".toList tail = true → holds "global".toList region.name = true)
    (reads : state.currentMode? = some .pixels) (number : Int) : ∃ part, region.Yields part ∧
      (importLine number (region.definition ++ tail)).run.run state = pure (.ok ⟨⟩, state.add part) := by
  cases hidden : holds "global".toList tail with
  | true =>
    refine ⟨⟨[], []⟩, .hidden (named hidden), ?_⟩
    rw [importLine_hidden line isTail hidden, ImportState.add_nil]
  | false =>
    rw [importLine_append line isTail hidden reads]
    generalize ((Definition.ofText (region.definition ++ tail)).properties.get? "text".toList).getD [] = label
    rcases written.plain_or drawable with plain | ⟨angle, unread⟩
    · have drawable' : Region.IsDrawable { region with name := label } := ⟨drawable.fits, drawable.x, drawable.y⟩
      obtain ⟨shape, region', read, placed, rereads⟩ := (written.labelled label).rereads drawable' plain state.fileId
      refine ⟨⟨[region'], []⟩, .found rereads, ?_⟩
      rw [read]
      change _ <$> (shape.place .pixels label state.fileId).run = _
      rw [show shape.place .pixels label state.fileId = pure region' from placed]
      rfl
    · refine ⟨_, .unread unread number, ?_⟩
      rw [unread.read_eq]
      rfl

/-- What comes of the line of a region comes of its definition alone. -/
theorem importEach_line (drawable : region.IsDrawable)
    (inert : ∀ part ∈ cutOff ';' (region.name ++ ['}']), isInert part = true) (reads : state.currentMode? = some .pixels)
    {lines : List LogicalLine} (texts : lines.map (·.text) = (parts ';' region.line).map trim) : ∃ part, region.Yields part ∧
      (lines.forM fun line => importLine line.number line.text.trim).run.run state = pure (.ok ⟨⟩, state.add part) := by
  obtain ⟨keyword, arguments, written⟩ := Region.writtenAs_of_fits drawable.fits
  have tokens : ∀ argument ∈ arguments, IsToken argument := by
    rcases written.plain_or drawable with plain | ⟨angle, unread⟩
    · exact fun argument listed => (plain argument listed).isToken
    · exact unread.isToken
  have line := written.isWritten tokens
  obtain ⟨tail, divided, isTail, named⟩ := Region.exists_parts_line line
  rw [divided] at texts
  obtain ⟨first, others, rfl, text, rest⟩ := List.map_eq_cons_iff.mp texts
  obtain ⟨part, yields, run⟩ := importLine_definition drawable written line isTail named reads first.number
  have idle : ∀ other ∈ others, isInert other.text.trim = true := by
    intro other listed
    have cut : other.text ∈ cutOff ';' (region.name ++ ['}']) := rest ▸ List.mem_map_of_mem listed
    obtain ⟨piece, _, trimmed⟩ := List.mem_map.mp cut
    rw [← trimmed, trim_trim, trimmed]
    exact inert _ cut
  refine ⟨part, yields, ?_⟩
  rw [List.forM, run_bind, text, line.trim_append isTail, run, pure_bind]
  exact importEach_inert idle

/-- The first lines add the first parts, so each line adds its own. -/
theorem importEach_regions {regions : List Region} (drawable : ∀ region ∈ regions, region.IsDrawable)
    (inert : ∀ region ∈ regions, ∀ part ∈ cutOff ';' (region.name ++ ['}']), isInert part = true)
    (reads : state.currentMode? = some .pixels) (start : Nat) : ∃ parts, List.Forall₂ Region.Yields regions parts ∧
      ∀ count, ((logicalLinesFrom ';' start ((regions.take count).flatMap (·.line ++ ['\n']))).forM
        fun line => importLine line.number line.text.trim).run.run state =
          pure (.ok ⟨⟩, state.add (ImportResult.concat (parts.take count))) := by
  have idle (state : ImportState) : (([] : List LogicalLine).forM fun line => importLine line.number line.text.trim).run.run state =
      pure (.ok ⟨⟩, state.add (ImportResult.concat [])) := by
    rw [show ImportResult.concat [] = ⟨[], []⟩ from rfl, ImportState.add_nil]
    rfl
  induction regions generalizing state start with
  | nil =>
    refine ⟨[], .nil, fun count => ?_⟩
    rw [List.take_nil, List.take_nil]
    exact idle state
  | cons region rest ih =>
    rw [List.forall_mem_cons] at drawable inert
    obtain ⟨part, yields, run⟩ := importEach_line drawable.1 inert.1 reads (logicalLinesFrom_text start region.line)
    obtain ⟨parts, yields', run'⟩ := @ih (state.add part) drawable.2 inert.2 reads
      (start + (physicalLines (region.line ++ ['\n'])).length)
    refine ⟨part :: parts, .cons yields yields', fun count => ?_⟩
    cases count with
    | zero => exact idle state
    | succ count =>
      rw [List.take_succ_cons, List.take_succ_cons, List.flatMap_cons, List.append_assoc, List.singleton_append,
        logicalLinesFrom_append_break, List.forM_eq_forM, List.forM_append, run_bind, ← List.forM_eq_forM, run, pure_bind,
        ImportResult.concat_cons, ← ImportState.add_add]
      exact run' count

end

section

open CommonUnits

end

end Import
end SkyRegion
