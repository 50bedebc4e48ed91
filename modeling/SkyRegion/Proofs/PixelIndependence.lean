import SkyRegion.Proofs.LineByLine
import SkyRegion.Proofs.SkyDeclarations
import SkyRegion.Proofs.WrittenRegion

/-! Imports among pixels. Until a keyword of the sky is declared nothing is asked of the image, whatever else the lines
declare or hold; so the image does not matter. -/

namespace SkyRegion

open Image Text

namespace Frame

/-- Keywords that put positions on the sky. -/
def skyKeywords : List Text :=
  ["b1950".toList, "fk4".toList, "j2000".toList, "fk5".toList, "galactic".toList, "ecliptic".toList, "icrs".toList]

theorem isSky_ofKeyword_iff (keyword : Text) : (ofKeyword keyword).isSky = true ↔ keyword ∈ skyKeywords := by
  have known : ∀ keyword ∈ skyKeywords, (ofKeyword keyword).isSky = true := by decide
  have listed : ∀ entry ∈ keywords, entry.2.isSky = true → entry.1 ∈ skyKeywords := by decide
  refine ⟨fun sky => ?_, known keyword⟩
  rw [ofKeyword] at sky
  cases found : keywords.lookup keyword with
  | none =>
    rw [found] at sky
    cases sky
  | some frame =>
    rw [found] at sky
    exact listed (keyword, frame) (mem_of_lookup found) sky

/-- What stands in a line and has no other lower case stands in its keyword. -/
theorem notMem_of_notMem_keywordOf {c : Char} {line : Text} (fixed : simpleLower c = c) (sigma : c ≠ 'Σ') (dotted : c ≠ 'İ')
    (missing : c ∉ keywordOf line) : c ∉ line.trim :=
  fun member => missing (mem_lower fixed sigma dotted member)

theorem ofLine_of_mem_skyKeywords {line : Text} (sky : keywordOf line ∈ skyKeywords) :
    LineKind.ofLine line.trim = .frame := by
  have marks : ∀ keyword ∈ skyKeywords, keyword ≠ [] ∧ '#' ∉ keyword ∧ '-' ∉ keyword ∧ 'o' ∉ keyword := by decide
  have known : ∀ keyword ∈ skyKeywords, (keywords.lookup keyword).isSome = true := by decide
  obtain ⟨present, comment, excluded, style⟩ := marks _ sky
  have declares : isDeclaration line.trim = true := by
    rw [isDeclaration, keywordOf_trim, known _ sky, Bool.true_or]
  have unstyled : holds "global".toList line.trim = false :=
    @holds_eq_false_of_notMem _ _ 'o' (by decide) (notMem_of_notMem_keywordOf (by decide) (by decide) (by decide) style)
  have plain := @notMem_of_notMem_keywordOf '#' line (by decide) (by decide) (by decide) comment
  have kept := @notMem_of_notMem_keywordOf '-' line (by decide) (by decide) (by decide) excluded
  cases trimmed : line.trim with
  | nil =>
    rw [keywordOf, trimmed] at present
    exact absurd rfl present
  | cons c rest =>
    rw [trimmed] at declares unstyled plain kept
    rw [LineKind.ofLine_cons (fun same => plain (same ▸ List.mem_cons_self)) (fun same => kept (same ▸ List.mem_cons_self)),
      unstyled, declares]
    rfl

end Frame

theorem declaresSky_trim_iff (line : Text) : declaresSky line.trim = true ↔ Frame.keywordOf line ∈ Frame.skyKeywords := by
  rw [declaresSky, Bool.and_eq_true, decide_eq_true_iff, Frame.keywordOf_trim, Frame.isSky_ofKeyword_iff]
  exact and_iff_right_of_imp Frame.ofLine_of_mem_skyKeywords

namespace Import

/-- Logical lines that declare no sky frame come to the same with every image, which is asked nothing. -/
theorem importLines_independent [UnitLibrary] {lines : List LogicalLine}
    (plain : ∀ line ∈ lines, declaresSky line.text.trim = false)
    (fileId : Int) : ∃ outcome, ∀ (image : Image) (asked : List Query),
      (start fileId (importLines [] lines)).run.run image asked = (outcome, asked) := by
  obtain ⟨outcome, run⟩ := @importEach_asks { fileId } _ lines plain isOffSky_pixels
  have whole : (importLines [] lines).run.run { fileId } = pure outcome := run
  refine ⟨outcome.1.map fun _ => outcome.2.result, fun image asked => ?_⟩
  rw [start_run, whole, map_pure, Dialogue.run_pure]

/-- Lines without a keyword of the sky come to the same with every image, which is asked nothing. -/
theorem ofLines_independent [UnitLibrary] {lines : List Text}
    (plain : ∀ line ∈ lines, Frame.keywordOf line ∉ Frame.skyKeywords)
    (fileId : Int) : ∃ outcome, ∀ (image : Image) (asked : List Query),
      (ofLines fileId [] lines).run.run image asked = (outcome, asked) := by
  refine importLines_independent (fun line listed => ?_) fileId
  obtain ⟨⟨text, number⟩, member, rfl⟩ := List.mem_map.mp listed
  rw [Bool.eq_false_iff, Ne, declaresSky_trim_iff]
  exact plain text (List.fst_mem_of_mem_zipIdx member)

section

open CommonUnits

/-- A frame that nothing is known about, units of the sky, an angle in three parts and a failure do not need an image. -/
theorem ofLines_independent_mixed :
    let lines := ["wcs", "point(1,2)", " Image ", "circle(10,20,3\")", "circle(1,2)", "point(1:2:3,4d)", "physical",
      "box(1,2,3,4,x)"].map (·.toList)
    (∀ line ∈ lines, Frame.keywordOf line ∉ Frame.skyKeywords) ∧ ∃ outcome, ∀ (image : Image) (asked : List Query),
      (ofLines 0 [] lines).run.run image asked = (outcome, asked) := by
  intro lines
  have plain : ∀ line ∈ lines, Frame.keywordOf line ∉ Frame.skyKeywords := by decide +kernel
  exact ⟨plain, ofLines_independent plain 0⟩

end

end Import
end SkyRegion
