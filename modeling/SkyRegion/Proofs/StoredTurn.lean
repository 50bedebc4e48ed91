import Mathlib.Data.Int.ModEq
import SkyRegion.Proofs.LineStages
import SkyRegion.Proofs.NumeralToken
import SkyRegion.Proofs.PointCounts
import SkyRegion.Proofs.WholeNumber

/-! The turn that an ellipse is imported with, among pixels as on the sky. It is the angle measured from the other axis, up
to whole turns; but one turn is added at most and none is taken away, so that not every angle comes to lie within a
single turn. -/

namespace SkyRegion

open Image Text Floating

theorem degreesFromVertical_modEq (degrees : Int) : degreesFromVertical degrees ≡ degrees - 90 [ZMOD 360] := by
  unfold degreesFromVertical Int.ModEq
  split_ifs <;> omega

theorem degreesFromVertical_within_iff (degrees : Int) :
    0 ≤ degreesFromVertical degrees ∧ degreesFromVertical degrees < 360 ↔ -270 ≤ degrees ∧ degrees < 450 := by
  unfold degreesFromVertical
  split_ifs <;> omega

namespace Shape

variable {image : Image} {mode : PositionMode}

/-- Whatever an image answers, a shape is placed with its own turn. -/
theorem rotation_of_place {shape : Shape} (complete : shape.IsComplete) {label : Text} {fileId : Int} {asked : List Query}
    {region : Region} (placed : ((shape.place mode label fileId).run.run image asked).1 = .ok region) :
    region.rotation = shape.rotation := by
  have positions := placePosition_leads_of_any image mode shape.name
  have lengths := placeLength_leads_of_any image shape.name
  have leads := place_leads mode positions lengths rfl complete label fileId asked
  rw [placed] at leads
  obtain ⟨points, _, rfl⟩ := leads
  rfl

section accepts

variable (accepts : image.AcceptsConversions)
include accepts

theorem placePosition_accepted (mode : PositionMode) (name : Text) (position : Position) :
    (placePosition mode name position).Leads image (fun _ => True) fun _ => False := by
  cases mode with
  | pixels => exact .pure trivial
  | sky frame =>
    intro asked
    obtain ⟨pixel, replied⟩ := accepts.places asked frame position.x position.y
    rw [placePosition_run, replied]
    trivial

theorem placeLength_accepted (name : Text) (length : Quantity) (axis : Axis) :
    (placeLength name length axis).Leads image (fun _ => True) fun _ => False := by
  intro asked
  obtain ⟨pixels, replied⟩ := accepts.measures asked length axis
  rw [placeLength_run, replied]
  trivial

/-- A complete shape is placed. -/
theorem exists_place {shape : Shape} (complete : shape.IsComplete) (mode : PositionMode) (label : Text) (fileId : Int)
    (asked : List Query) : ∃ region, ((shape.place mode label fileId).run.run image asked).1 = .ok region := by
  have positions := placePosition_accepted accepts mode shape.name
  have lengths := placeLength_accepted accepts shape.name
  have leads := place_leads mode positions lengths rfl complete label fileId asked
  cases placed : ((shape.place mode label fileId).run.run image asked).1 with
  | ok region => exact ⟨region, rfl⟩
  | error setback =>
    rw [placed] at leads
    exact leads.elim

end accepts

/-- An ellipse with radii of different texts is turned by its angle. -/
theorem rotation_of_read [UnitLibrary] {word x y width height : Text} {turn : Numeral} (wellFormed : turn.IsWellFormed)
    (differ : width ≠ height) {shape : Shape}
    (accepted : read mode .ellipse word [x, y, width, height, turn.text] = .ok shape) :
    shape.rotation = fromVertical turn.toNumber := by
  obtain ⟨values, means, made⟩ := (isReadFrom_of_read accepted).2.2
  cases made with
  | @ellipse _ _ _ _ further angle converted =>
    obtain _ | ⟨_, _ | ⟨_, _ | ⟨_, _ | ⟨_, _ | ⟨last, _ | _⟩⟩⟩⟩⟩ := means
    have place : placeOf mode .ellipse [x, y, width, height, turn.text] 4 = .degree := by cases mode <;> rfl
    change Token.quantity [] (placeOf mode .ellipse [x, y, width, height, turn.text] 4) false turn.text = _ at last
    rw [place, Token.quantity_numeral wellFormed] at last
    obtain rfl := Except.ok.inj last
    obtain rfl : turn.toNumber = angle := Option.some.inj converted
    exact if_neg fun same => differ (Option.some.inj same)

end Shape

namespace Import

variable {state : ImportState} {line word : Text} {keyword : ShapeKeyword} {arguments : List Text}

/-- A single region that was added is what the line was placed as. -/
theorem eq_ok_of_added {number : Int} {result : Except Setback Region} {region : Region}
    (adds : added state (reported number keyword result) = (.ok ⟨⟩, state.add ⟨[region], []⟩)) : result = .ok region := by
  have appended {part : ImportResult} (same : state.add part = state.add ⟨[region], []⟩) : part.regions = [region] :=
    List.append_cancel_left (congrArg ImportState.regions same)
  rcases result with (complaint | interruption) | other
  · cases appended (congrArg Prod.snd adds)
  · cases congrArg Prod.fst adds
  · rw [List.singleton_injective (appended (congrArg Prod.snd adds))]

/-- A region that comes of a line was read as a shape, and placed. -/
theorem IsTaken.exists_shape [UnitLibrary] (taken : IsTaken line keyword word arguments) {image : Image}
    {asked : List Query} {number : Int} {region : Region}
    (adds : (((importLine number line).run.run state).run image asked).1 = (.ok ⟨⟩, state.add ⟨[region], []⟩)) :
    ∃ mode shape, state.currentMode? = some mode ∧ Shape.read mode keyword word arguments = .ok shape ∧
      ((shape.place mode (labelOf line) state.fileId).run.run image asked).1 = .ok region := by
  cases reads : state.currentMode? with
  | none =>
    rw [taken.importLine_passed reads] at adds
    have same : state.regions = state.regions ++ [region] := congrArg (·.2.regions) adds
    simp at same
  | some mode =>
    cases read : Shape.read mode keyword word arguments with
    | error setback =>
      rw [taken.importLine_run reads, read] at adds
      cases eq_ok_of_added adds
    | ok shape =>
      rw [taken.importLine_of_read reads read] at adds
      exact ⟨mode, shape, rfl, read, eq_ok_of_added adds⟩

/-- An ellipse with radii of different texts is turned by whole degrees. On an image that accepts conversions it is
imported, in whatever mode. It comes to the turn that is measured from the other axis, up to whole turns; it comes to lie
within a single turn exactly from 270 degrees below zero on, and below 450 degrees. -/
theorem ellipse_rotation_within_iff [UnitLibrary] {x y width height : Text} {turn : Numeral}
    (taken : IsTaken line .ellipse word [x, y, width, height, turn.text]) (differ : width ≠ height)
    (wellFormed : turn.IsWellFormed) {degrees : Int} (whole : IsInt turn.toNumber degrees)
    (small : degrees.natAbs ≤ 1000000) (image : Image) (asked : List Query) (number : Int) :
    let adds := fun region => (((importLine number line).run.run state).run image asked).1 =
      (.ok ⟨⟩, state.add ⟨[region], []⟩)
    (image.AcceptsConversions → state.currentMode?.isSome = true →
      Shape.IsReadable .ellipse word [x, y, width, height, turn.text] → ∃ region, adds region) ∧
    ∀ region, adds region → ∃ rotation : Int, IsInt region.rotation rotation ∧ rotation ≡ degrees - 90 [ZMOD 360] ∧
      (0 ≤ rotation ∧ rotation < 360 ↔ -270 ≤ degrees ∧ degrees < 450) := by
  intro adds
  constructor
  · intro accepts present readable
    obtain ⟨mode, reads⟩ := Option.isSome_iff_exists.mp present
    have count : Shape.HasCount .ellipse word [x, y, width, height, turn.text] := .inr rfl
    obtain ⟨shape, read, _⟩ := Shape.exists_read mode count readable
    obtain ⟨region, placed⟩ :=
      Shape.exists_place accepts (Shape.isComplete_of_read read) mode (labelOf line) state.fileId asked
    have ran := taken.importLine_of_read reads read number image asked
    rw [placed] at ran
    exact ⟨region, congrArg Prod.fst ran⟩
  · intro region added
    obtain ⟨mode, shape, _, read, placed⟩ := taken.exists_shape added
    have same : region.rotation = Shape.fromVertical turn.toNumber :=
      (Shape.rotation_of_place (Shape.isComplete_of_read read) placed).trans (Shape.rotation_of_read wellFormed differ read)
    have stored := fromVertical_isInt whole (by omega)
    rw [← same] at stored
    exact ⟨_, stored, degreesFromVertical_modEq degrees, degreesFromVertical_within_iff degrees⟩

section

open CommonUnits

/-- The ellipse at (10, 20) with the radii 5 and 3, turned to below zero, is stored with 70 degrees. -/
theorem ellipse_rotation_of_minus_200 :
    let turn : Numeral := ⟨some .minus, ⟨"200".toList, none⟩, none⟩
    let line := "ellipse(10, 20, 5, 3, -200)".toList
    let arguments := ["10".toList, "20".toList, "5".toList, "3".toList, turn.text]
    IsTaken line .ellipse "ellipse".toList arguments ∧ turn.IsWellFormed ∧ IsInt turn.toNumber (-200) ∧
      plane.AcceptsConversions ∧ Shape.IsReadable .ellipse "ellipse".toList arguments ∧ ∃ region rotation,
        (((importLine 1 line).run.run declaredJ2000).run plane []).1 = (.ok ⟨⟩, declaredJ2000.add ⟨[region], []⟩) ∧
          IsInt region.rotation rotation ∧ rotation ≡ -200 - 90 [ZMOD 360] ∧ 0 ≤ rotation ∧ rotation < 360 := by
  intro turn line arguments
  have taken : IsTaken line .ellipse "ellipse".toList arguments :=
    ⟨by decide +kernel, ⟨"ellipse".toList, by decide +kernel, rfl⟩, by decide +kernel⟩
  have wellFormed : turn.IsWellFormed := by decide +kernel
  have whole : IsInt turn.toNumber (-200) := by decide +kernel
  have angle : Token.IsAngle turn.text := ⟨⟨turn.toNumber, .degree⟩, turn.toNumber, by decide +kernel, rfl⟩
  have known : List.Forall₂ (Token.Means (Shape.placeOf (.sky .j2000) .ellipse arguments))
      (Shape.readings .ellipse "ellipse".toList arguments).zipIdx
        [⟨10, .degree⟩, ⟨20, .degree⟩, ⟨5, .arcsecond⟩, ⟨3, .arcsecond⟩, ⟨turn.toNumber, .degree⟩] := by
    decide +kernel
  have readable : Shape.IsReadable .ellipse "ellipse".toList arguments :=
    ⟨Shape.forall_isRead known, fun _ => by rintro token ⟨⟩; exact angle⟩
  obtain ⟨imports, turns⟩ :=
    ellipse_rotation_within_iff taken (by decide) wellFormed whole (by decide) plane [] 1
  have present : declaredJ2000.currentMode?.isSome = true := rfl
  obtain ⟨region, adds⟩ := imports plane_acceptsConversions present readable
  obtain ⟨rotation, stored, same, within⟩ := turns region adds
  exact ⟨taken, wellFormed, whole, plane_acceptsConversions, readable, region, rotation, adds, stored, same,
    within.mpr (by decide)⟩

/-- More than a turn below zero, what is stored is below zero too. -/
theorem ellipse_rotation_of_minus_400 :
    let turn : Numeral := ⟨some .minus, ⟨"400".toList, none⟩, none⟩
    let line := "ellipse(10, 20, 5, 3, -400)".toList
    let arguments := ["10".toList, "20".toList, "5".toList, "3".toList, turn.text]
    let state : ImportState := { fileId := 0 }
    let region : Region := ⟨.ellipse, [⟨10, 20⟩, ⟨5, 3⟩], -130, [], 0⟩
    IsTaken line .ellipse "ellipse".toList arguments ∧ turn.IsWellFormed ∧ IsInt turn.toNumber (-400) ∧
      plane.AcceptsConversions ∧
      ((importLine 1 line).run.run state).run plane [] = ((.ok ⟨⟩, state.add ⟨[region], []⟩), []) ∧
        IsInt region.rotation (-130) ∧ ¬(0 : Int) ≤ -130 := by
  intro turn line arguments state region
  have taken : IsTaken line .ellipse "ellipse".toList arguments :=
    ⟨by decide +kernel, ⟨"ellipse".toList, by decide +kernel, rfl⟩, by decide +kernel⟩
  exact ⟨taken, by decide +kernel, by decide +kernel, plane_acceptsConversions, by decide +kernel, by decide +kernel,
    by decide⟩

end

end Import

end SkyRegion
