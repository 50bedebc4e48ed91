import Mathlib.Data.Int.ModEq
import SkyRegion.Proofs.Reimport

/-! The turn of an ellipse on its way through a file. Each way of measuring it corrects an angle by one turn at most,
and an angle that is not positive is not written; so the turn survives only from less than a turn below zero on. -/

namespace SkyRegion

open Text Floating

/-- Where whole degrees end up when an ellipse is imported, written and imported again. -/
def degreesReturned (degrees : Int) : Int :=
  degreesFromVertical (max 0 (degreesToHorizontal (degreesFromVertical degrees)))

theorem degreesReturned_modEq_iff (degrees : Int) :
    degreesReturned degrees ≡ degrees - 90 [ZMOD 360] ↔ -360 < degrees ∨ 360 ∣ degrees := by
  unfold degreesReturned degreesFromVertical degreesToHorizontal Int.ModEq
  split_ifs <;> omega

/-- The numbers of an ellipse that is written with an angle. -/
structure EllipseNumerals where
  x : Numeral
  y : Numeral
  width : Numeral
  height : Numeral
  turn : Numeral

namespace EllipseNumerals

def line (numerals : EllipseNumerals) : Text :=
  Region.call "ellipse"
    [numerals.x.text, numerals.y.text, numerals.width.text, numerals.height.text, numerals.turn.text]

/-- The ellipse among pixels, with its turn measured from the vertical axis. -/
def region (numerals : EllipseNumerals) (fileId : Int) : Region :=
  ⟨.ellipse, [⟨numerals.x.toNumber, numerals.y.toNumber⟩, ⟨numerals.width.toNumber, numerals.height.toNumber⟩],
    Shape.fromVertical numerals.turn.toNumber, [], fileId⟩

/-- Finite numbers with radii that differ, also when they are written with two places, and a turn by whole degrees. -/
structure IsTurned (numerals : EllipseNumerals) (degrees : Int) : Prop where
  x : numerals.x.IsWellFormed ∧ numerals.x.toNumber.isFinite = true
  y : numerals.y.IsWellFormed ∧ numerals.y.toNumber.isFinite = true
  width : numerals.width.IsWellFormed ∧ numerals.width.toNumber.isFinite = true
  height : numerals.height.IsWellFormed ∧ numerals.height.toNumber.isFinite = true
  turn : numerals.turn.IsWellFormed ∧ IsInt numerals.turn.toNumber degrees
  unequal : numerals.width.toNumber.same numerals.height.toNumber = false
  distinct : numerals.width.toNumber.fixed 2 ≠ numerals.height.toNumber.fixed 2

instance (numerals : EllipseNumerals) (degrees : Int) : Decidable (numerals.IsTurned degrees) :=
  decidable_of_iff ((numerals.x.IsWellFormed ∧ numerals.x.toNumber.isFinite = true) ∧
      (numerals.y.IsWellFormed ∧ numerals.y.toNumber.isFinite = true) ∧
      (numerals.width.IsWellFormed ∧ numerals.width.toNumber.isFinite = true) ∧
      (numerals.height.IsWellFormed ∧ numerals.height.toNumber.isFinite = true) ∧
      (numerals.turn.IsWellFormed ∧ IsInt numerals.turn.toNumber degrees) ∧
      numerals.width.toNumber.same numerals.height.toNumber = false ∧
      numerals.width.toNumber.fixed 2 ≠ numerals.height.toNumber.fixed 2)
    ⟨fun ⟨x, y, width, height, turn, unequal, distinct⟩ => ⟨x, y, width, height, turn, unequal, distinct⟩,
      fun turned => ⟨turned.x, turned.y, turned.width, turned.height, turned.turn, turned.unequal, turned.distinct⟩⟩

variable {numerals : EllipseNumerals} {degrees : Int}

theorem isWritten_line (turned : numerals.IsTurned degrees) : IsWritten numerals.line .ellipse
    [numerals.x.text, numerals.y.text, numerals.width.text, numerals.height.text, numerals.turn.text] := by
  refine Region.isWritten_call_of_tokens (by decide) ?_ rfl
  simp only [List.forall_mem_cons]
  exact ⟨turned.x.1.isToken, turned.y.1.isToken, turned.width.1.isToken, turned.height.1.isToken, turned.turn.1.isToken,
    List.forall_mem_nil _⟩

theorem isWritable_region (turned : numerals.IsTurned degrees) (small : degrees.natAbs ≤ 1000000) (fileId : Int) :
    (numerals.region fileId).IsWritable := by
  have whole := fromVertical_isInt turned.turn.2 (by omega)
  have bound : (degreesFromVertical degrees).natAbs < 2 ^ 24 := by
    unfold degreesFromVertical
    split <;> omega
  refine ⟨rfl, ?_, ?_, ?_⟩
  · simp only [region, List.forall_mem_cons]
    exact ⟨turned.x.2, turned.width.2, List.forall_mem_nil _⟩
  · simp only [region, List.forall_mem_cons]
    exact ⟨turned.y.2, turned.height.2, List.forall_mem_nil _⟩
  · exact whole.isFinite_convert bound

end EllipseNumerals

namespace Import

variable {numerals : EllipseNumerals} {degrees : Int}

section

variable [UnitLibrary]

theorem ofText_ellipse (turned : numerals.IsTurned degrees) (fileId : Int) :
    ofText fileId ({} : Settings).lineDelimiter numerals.line = pure ⟨[numerals.region fileId], []⟩ := by
  have written := EllipseNumerals.isWritten_line turned
  have unnamed : IsWritableName [] := ⟨nofun, nofun, nofun⟩
  have single := written.isLineBreak_labelled unnamed.single
  have undivided := written.undivided_labelled unnamed.undivided
  have read := @Shape.readEllipse_angled _ .pixels _ _ _ _ _ _ _ _ _ _ turned.x.1.readsAs turned.y.1.readsAs
    turned.width.1.readsAs turned.height.1.readsAs turned.turn.1.readsAs
  have differ : numerals.width.text ≠ numerals.height.text := fun same =>
    turned.distinct (by rw [Numeral.eq_of_text_eq turned.width.1 turned.height.1 same])
  rw [if_neg differ] at read
  have run : (importLine 1 (Writer.labelled numerals.line []).trim).run.run { fileId } = _ :=
    importLine_labelled written (written.label_labelled unnamed.closed) rfl rfl read 1
  rw [labelled_nil] at single undivided run
  have present : numerals.line ≠ [] := List.ne_nil_of_mem written.parenthesis_mem
  have all : (importLines [] [⟨1, numerals.line.trim⟩]).run.run { fileId } =
      pure (.ok ⟨⟩, { fileId, regions := [numerals.region fileId] }) := by
    change (importLine 1 numerals.line.trim.trim >>= fun _ => pure PUnit.unit).run.run { fileId } = _
    rw [trim_trim, run_bind, run]
    rfl
  rw [ofText, show ({} : Settings).lineDelimiter = [';'] from rfl, logicalLines?_of_forall present single undivided]
  simp only
  rw [start, all]
  rfl

/-- The ellipse is written and imported again with the turn that whole degrees come back as. -/
theorem exported_ellipse (turned : numerals.IsTurned degrees) (small : degrees.natAbs ≤ 1000000) (hasImage : Bool)
    (fileId fileId' : Int) : ∃ lines region, Writer.exported hasImage [numerals.region fileId] = pure lines ∧
      ofText fileId' ({} : Settings).lineDelimiter lines.flatten = pure ⟨[region], []⟩ ∧
        IsInt region.rotation (degreesReturned degrees) := by
  have writable := EllipseNumerals.isWritable_region turned small fileId
  have named : IsWritableName (numerals.region fileId).name := ⟨nofun, nofun, nofun⟩
  obtain ⟨lines, found, written, read, rereads⟩ := exported_imported hasImage fileId' (List.cons_ne_nil _ [])
    (List.forall_mem_singleton.mpr writable) (List.forall_mem_singleton.mpr named)
  have kept : [numerals.region fileId].filter (·.isKept) = [numerals.region fileId] := rfl
  rw [kept, List.forall₂_cons_left_iff] at rereads
  obtain ⟨region, rest, rereads, nothing, rfl⟩ := rereads
  rw [List.forall₂_nil_left_iff] at nothing
  subst nothing
  have whole := fromVertical_isInt turned.turn.2 (by omega)
  have bounds : (degreesFromVertical degrees).natAbs < 2 ^ 22 ∧
      (max 0 (degreesToHorizontal (degreesFromVertical degrees))).natAbs < 2 ^ 52 := by
    unfold degreesFromVertical degreesToHorizontal
    split_ifs <;> omega
  have angle := fromVertical_isInt (@Region.angleTexts_isInt (numerals.region fileId) _ whole bounds.1) bounds.2
  rw [← rereads.ellipse rfl _ _ rfl turned.unequal turned.distinct] at angle
  exact ⟨lines, region, written, read, angle⟩

/-- The turn of an ellipse survives exactly from less than a turn below zero on, or when it is none. -/
theorem ellipse_turn_returns_iff (turned : numerals.IsTurned degrees) (small : degrees.natAbs ≤ 1000000)
    (hasImage : Bool) (fileId fileId' : Int) : ∃ region lines region' degrees',
      ofText fileId ({} : Settings).lineDelimiter numerals.line = pure ⟨[region], []⟩ ∧
      Writer.exported hasImage [region] = pure lines ∧
      ofText fileId' ({} : Settings).lineDelimiter lines.flatten = pure ⟨[region'], []⟩ ∧
      IsInt region'.rotation degrees' ∧ (degrees' ≡ degrees - 90 [ZMOD 360] ↔ -360 < degrees ∨ 360 ∣ degrees) := by
  obtain ⟨lines, region', written, read, whole⟩ := exported_ellipse turned small hasImage fileId fileId'
  exact ⟨_, lines, region', _, ofText_ellipse turned fileId, written, read, whole, degreesReturned_modEq_iff degrees⟩

end

/-- The ellipse at (10, 20) with the radii 5 and 3.5, turned by whole degrees. -/
def turnedBy (sign : Option Sign) (degrees : String) : EllipseNumerals :=
  ⟨⟨none, ⟨"10".toList, none⟩, none⟩, ⟨none, ⟨"20".toList, none⟩, none⟩, ⟨none, ⟨"5".toList, none⟩, none⟩,
    ⟨none, ⟨"3".toList, some "5".toList⟩, none⟩, ⟨sign, ⟨degrees.toList, none⟩, none⟩⟩

section

open CommonUnits

theorem ellipse_turn_returns_below_zero :
    let numerals := turnedBy (some .minus) "300"
    numerals.line = "ellipse(10, 20, 5, 3.5, -300)".toList ∧ numerals.IsTurned (-300) ∧
      ∃ region lines region' degrees, ofText 0 ({} : Settings).lineDelimiter numerals.line = pure ⟨[region], []⟩ ∧
        Writer.exported false [region] = pure lines ∧
        ofText 0 ({} : Settings).lineDelimiter lines.flatten = pure ⟨[region'], []⟩ ∧
        IsInt region'.rotation degrees ∧ degrees ≡ -300 - 90 [ZMOD 360] := by
  intro numerals
  have turned : numerals.IsTurned (-300) := by decide +kernel
  obtain ⟨region, lines, region', degrees, read, written, reread, whole, returns⟩ :=
    ellipse_turn_returns_iff turned (by decide) false 0 0
  exact ⟨by decide +kernel, turned, region, lines, region', degrees, read, written, reread, whole, returns.mpr (by decide)⟩

/-- More than a turn below zero the angle that is written would be negative, and none is written. -/
theorem ellipse_turn_lost :
    let numerals := turnedBy (some .minus) "400"
    numerals.line = "ellipse(10, 20, 5, 3.5, -400)".toList ∧ numerals.IsTurned (-400) ∧
      ∃ region lines region', ofText 0 ({} : Settings).lineDelimiter numerals.line = pure ⟨[region], []⟩ ∧
        Writer.exported false [region] = pure lines ∧
        ofText 0 ({} : Settings).lineDelimiter lines.flatten = pure ⟨[region'], []⟩ ∧
        IsInt region'.rotation 270 ∧ ¬270 ≡ -400 - 90 [ZMOD 360] := by
  intro numerals
  have turned : numerals.IsTurned (-400) := by decide +kernel
  obtain ⟨lines, region', written, reread, whole⟩ := exported_ellipse turned (by decide) false 0 0
  exact ⟨by decide +kernel, turned, _, lines, region', ofText_ellipse turned 0, written, reread, whole, by decide⟩

end

end Import
end SkyRegion
