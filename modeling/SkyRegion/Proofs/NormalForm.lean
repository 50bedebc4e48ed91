import SkyRegion.Proofs.Reimport
import SkyRegion.Proofs.Reprinting

/-! Files of regions written again after they were read. Every number is written as it was, and so is every line but
those of ellipses whose radii are told apart before they are rounded and not after: these are read as circles. -/

namespace SkyRegion

open Image Text

namespace Region

/-- Radii that are different numbers are different ones too when they were written and read. -/
def keepsRadii (region : Region) : Bool :=
  match region.kind, region.points with
  | .ellipse, _ :: size :: _ => size.x.same size.y || !(rereadPoint size).x.same (rereadPoint size).y
  | _, _ => true

theorem fixed_rereadPoint {point : Point} (x : point.x.isFinite = true) (y : point.y.isFinite = true) :
    (rereadPoint point).x.fixed 2 = point.x.fixed 2 ∧ (rereadPoint point).y.fixed 2 = point.y.fixed 2 :=
  ⟨(Number.fixed_number_fixed x (show 1 < 399 by decide)).2, (Number.fixed_number_fixed y (show 1 < 399 by decide)).2⟩

theorem angleTexts_eq_of_isInt {region region' : Region} {degrees : Nat} (whole : Floating.IsInt region.rotation degrees)
    (whole' : Floating.IsInt region'.rotation degrees) (turn : degrees < 360) :
    region'.angleTexts = region.angleTexts := by
  obtain ⟨n, turned, positive, bound⟩ : ∃ n : Nat, degreesToHorizontal degrees = n ∧ 0 < n ∧ n < 2 ^ 23 := by
    refine ⟨(degreesToHorizontal degrees).toNat, ?_⟩
    unfold degreesToHorizontal
    split <;> omega
  have angle := toHorizontal_isInt whole (by omega)
  have angle' := toHorizontal_isInt whole' (by omega)
  rw [turned] at angle angle'
  have shown {x : Number} (angle : Floating.IsInt x n) : Floating.below 0 x = true :=
    ((Number.isInt_ofNat 0 (by decide)).below_iff angle).mpr (by exact_mod_cast positive)
  rw [angleTexts, angleTexts, if_pos (shown angle), if_pos (shown angle'),
    Number.angleText_eq_of_isInt angle angle' positive bound]

variable {region region' : Region} (plain : region.IsPlain) (rereads : region.Rereads region')
include plain rereads

/-- A region that keeps its radii is written as before. -/
theorem Rereads.definition_eq (keeps : region.keepsRadii = true) : region'.definition = region.definition := by
  obtain ⟨degrees, turn, whole⟩ := plain.rotation
  have texts : ∀ point ∈ region.points, (rereadPoint point).x.fixed 2 = point.x.fixed 2 ∧
      (rereadPoint point).y.fixed 2 = point.y.fixed 2 :=
    fun point listed => fixed_rereadPoint (plain.x point listed) (plain.y point listed)
  obtain ⟨keyword, arguments, written⟩ := writtenAs_of_fits plain.fits
  cases written with
  | @point center kind points =>
    have points' := rereads.exact (by simp [isCircle, kind])
    rw [points, List.forall_mem_singleton] at texts
    rw [definition.eq_def, definition.eq_def, rereads.kind, points', kind, points]
    simp only [List.map_cons, texts]
  | @box center size kind points =>
    have points' := rereads.exact (by simp [isCircle, kind])
    have angle := Number.angleText_number_angleText whole (by omega)
    rw [points, List.forall_mem_cons, List.forall_mem_singleton] at texts
    rw [definition.eq_def, definition.eq_def, rereads.kind, points', kind, points]
    simp only [List.map_cons, texts, rereads.box kind, angle]
  | @circle center size kind points equal =>
    have points' := rereads.circle (by simp [isCircle, kind, points, equal]) center size points
    obtain ⟨finite, radius⟩ := Number.fixed_number_fixed (plain.x size (by simp [points])) (show 1 < 399 by decide)
    have round := (Floating.same_iff finite finite).mpr rfl
    rw [points, List.forall_mem_cons, List.forall_mem_singleton] at texts
    rw [definition.eq_def, definition.eq_def, rereads.kind, points', kind, points]
    simp only [round, equal, if_true, texts, radius]
  | @ellipse center size kind points unequal =>
    have points' := rereads.exact (by simp [isCircle, kind, points, unequal])
    rw [points, List.map_cons, List.map_singleton] at points'
    have apart : (rereadPoint size).x.same (rereadPoint size).y = false := by
      simpa [keepsRadii, kind, points, unequal] using keeps
    have differ : size.x.fixed 2 ≠ size.y.fixed 2 := by
      intro equal
      have finite := (Number.fixed_number_fixed (plain.y size (by simp [points])) (show 1 < 399 by decide)).1
      rw [rereadPoint, equal, (Floating.same_iff finite finite).mpr rfl] at apart
      cases apart
    have whole' : Floating.IsInt region'.rotation degrees := by
      rw [rereads.ellipse kind center size points unequal differ]
      exact fromVertical_angleTexts whole turn
    rw [points, List.forall_mem_cons, List.forall_mem_singleton] at texts
    rw [definition_ellipse (rereads.kind.trans kind) points' apart, definition_ellipse kind points unequal,
      angleTexts_eq_of_isInt whole whole' turn]
    simp only [pointTexts, texts]
  | polygon kind enough =>
    have points' := rereads.exact (by simp [isCircle, kind])
    obtain ⟨first, rest, points⟩ := List.exists_cons_of_length_pos (Nat.lt_of_lt_of_le (by decide) enough)
    rw [points, List.forall_mem_cons] at texts
    have further : (rest.map rereadPoint).flatMap (fun point => ',' :: point.x.fixed 2 ++ ',' :: point.y.fixed 2) =
        rest.flatMap fun point => ',' :: point.x.fixed 2 ++ ',' :: point.y.fixed 2 := by
      rw [List.flatMap_map]
      refine List.flatMap_congr fun point listed => ?_
      rw [(texts.2 point listed).1, (texts.2 point listed).2]
    rw [definition.eq_def, definition.eq_def, rereads.kind, points', kind, points]
    simp only [List.map_cons, texts.1, further]

/-- Radii that are not kept apart make a circle of an ellipse. -/
theorem Rereads.head?_definition (loses : region.keepsRadii = false) :
    region.definition.head? = some 'e' ∧ region'.definition.head? = some 'c' := by
  obtain ⟨keyword, arguments, written⟩ := writtenAs_of_fits plain.fits
  cases written with
  | @ellipse center size kind points unequal =>
    have points' := rereads.exact (by simp [isCircle, kind, points, unequal])
    rw [points, List.map_cons, List.map_singleton] at points'
    have equal : (rereadPoint size).x.same (rereadPoint size).y = true := by
      simpa [keepsRadii, kind, points, unequal] using loses
    constructor
    · rw [definition_ellipse kind points unequal]
      rfl
    · rw [definition.eq_def, rereads.kind, points', kind]
      simp only [equal, if_true]
      rfl
  | circle kind points equal => simp [keepsRadii, kind, points, equal] at loses
  | point kind | box kind | polygon kind => simp [keepsRadii, kind] at loses

theorem Rereads.line_eq : region.line = region.definition ∧ region'.line = region'.definition := by
  rw [line, line, rereads.name, plain.unnamed, labelled_nil, labelled_nil]
  exact ⟨rfl, rfl⟩

end Region

/-- Files of regions are the same again exactly if each of the regions keeps its radii. -/
theorem flatten_lines_eq_iff {regions found : List Region} (plain : ∀ region ∈ regions, region.IsPlain)
    (rereads : List.Forall₂ Region.Rereads regions found) :
    ((Writer.pixelHeader ++ found.map (·.line)).map (· ++ ['\n'])).flatten =
        ((Writer.pixelHeader ++ regions.map (·.line)).map (· ++ ['\n'])).flatten ↔
      ∀ region ∈ regions, region.keepsRadii = true := by
  rw [List.map_append, List.map_append, List.flatten_append, List.flatten_append, List.append_cancel_left_eq]
  induction rereads with
  | nil => simp
  | @cons region region' rest found first further ih =>
    rw [List.forall_mem_cons] at plain
    obtain ⟨line, line'⟩ := first.line_eq plain.1
    simp only [List.map_cons, List.flatten_cons, List.forall_mem_cons, ← ih plain.2, line, line']
    cases keeps : region.keepsRadii with
    | true =>
      rw [first.definition_eq plain.1 keeps, List.append_cancel_left_eq]
      exact (and_iff_right rfl).symm
    | false =>
      -- The two lines differ in their first character already.
      obtain ⟨ellipse, circle⟩ := first.head?_definition plain.1 keeps
      refine iff_of_false (fun same => ?_) (fun both => Bool.false_ne_true both.1)
      have heads := congrArg List.head? same
      simp [ellipse, circle] at heads

namespace Import

theorem exported_imported_plain [UnitLibrary] (fileId : Int) {regions : List Region} (present : regions ≠ [])
    (plain : ∀ region ∈ regions, region.IsPlain) : ∃ found, found ≠ [] ∧
      ofText fileId ({} : Settings).lineDelimiter
          ((Writer.pixelHeader ++ regions.map (·.line)).map (· ++ ['\n'])).flatten = pure ⟨found, []⟩ ∧
        List.Forall₂ Region.Rereads regions found := by
  have named : ∀ region ∈ regions, IsWritableName region.name := by
    intro region listed
    rw [(plain region listed).unnamed]
    exact ⟨nofun, nofun, nofun⟩
  have kept : regions.filter (·.isKept) = regions := by
    refine List.filter_eq_self.mpr fun region listed => ?_
    rw [Region.isKept, (plain region listed).unnamed]
    rfl
  obtain ⟨lines, found, written, read, rereads⟩ :=
    exported_imported false fileId present (fun region listed => (plain region listed).isWritable) named
  rw [Writer.exported_eq false present] at written
  cases written
  rw [kept] at rereads
  refine ⟨found, ?_, read, rereads⟩
  intro none
  rw [none, List.forall₂_nil_right_iff] at rereads
  exact present rereads

/-- What was exported, imported and exported again is the same text exactly if every ellipse keeps its radii. -/
theorem exported_again_iff [UnitLibrary] (hasImage hasImage' : Bool) (fileId : Int) {regions : List Region}
    (present : regions ≠ []) (plain : ∀ region ∈ regions, region.IsPlain) :
    ∃ lines found lines', Writer.exported hasImage regions = pure lines ∧
      ofText fileId ({} : Settings).lineDelimiter lines.flatten = pure ⟨found, []⟩ ∧
        Writer.exported hasImage' found = pure lines' ∧
          (lines'.flatten = lines.flatten ↔ ∀ region ∈ regions, region.keepsRadii = true) := by
  obtain ⟨found, present', read, rereads⟩ := exported_imported_plain fileId present plain
  exact ⟨_, found, _, Writer.exported_eq hasImage present, read, Writer.exported_eq hasImage' present',
    flatten_lines_eq_iff plain rereads⟩

section

open CommonUnits

theorem exported_again_each_kind :
    let third : Number := .ofDecimal true 3335 (-3)
    let regions : List Region := [⟨.point, [⟨third, -0⟩], 90, [], 0⟩, ⟨.rectangle, [⟨1, 2⟩, ⟨third, 4⟩], -0, [], 0⟩,
      ⟨.ellipse, [⟨1, third⟩, ⟨3, 4⟩], 300, [], 0⟩, ⟨.ellipse, [⟨1, 2⟩, ⟨third, third⟩], 30, [], 0⟩,
      ⟨.polygon, [⟨0, 0⟩, ⟨4, third⟩, ⟨0, 3⟩], 0, [], 0⟩]
    regions ≠ [] ∧ (∀ region ∈ regions, region.IsPlain) ∧ ∃ lines found lines',
      Writer.exported true regions = pure lines ∧
        ofText 7 ({} : Settings).lineDelimiter lines.flatten = pure ⟨found, []⟩ ∧
          Writer.exported false found = pure lines' ∧ lines'.flatten = lines.flatten := by
  intro third regions
  have present : regions ≠ [] := List.cons_ne_nil _ _
  have plain : ∀ region ∈ regions, region.IsPlain := by decide +kernel
  have keep : ∀ region ∈ regions, region.keepsRadii = true := by decide +kernel
  obtain ⟨lines, found, lines', written, read, written', same⟩ := exported_again_iff true false 7 present plain
  exact ⟨present, plain, lines, found, lines', written, read, written', same.mpr keep⟩

/-- Two radii that differ by a thousandth are an ellipse the first time and a circle the second. -/
theorem exported_again_as_circle :
    let region : Region := ⟨.ellipse, [⟨10, 20⟩, ⟨5, .ofDecimal false 5001 (-3)⟩], 30, [], 0⟩
    region.IsPlain ∧ ∃ lines found lines', Writer.exported false [region] = pure lines ∧
      ofText 0 ({} : Settings).lineDelimiter lines.flatten = pure ⟨found, []⟩ ∧
        Writer.exported false found = pure lines' ∧ lines'.flatten ≠ lines.flatten := by
  intro region
  have plain : region.IsPlain := by decide +kernel
  have loses : region.keepsRadii = false := by decide +kernel
  have each := List.forall_mem_singleton.mpr plain
  obtain ⟨found, present', read, rereads⟩ := exported_imported_plain 0 (List.cons_ne_nil region []) each
  refine ⟨plain, _, found, _, Writer.exported_eq false (List.cons_ne_nil region []), read,
    Writer.exported_eq false present', ?_⟩
  rw [Ne, flatten_lines_eq_iff each rereads, List.forall_mem_singleton, loses]
  exact Bool.false_ne_true

end

end Import
end SkyRegion
