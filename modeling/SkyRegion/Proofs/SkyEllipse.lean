import SkyRegion.Proofs.SkyText
import SkyRegion.Proofs.WriterStates

/-! Ellipses written on the sky. Whether one becomes a circle is decided by the numbers of its radii, before these are
converted. Radii of one unit are therefore equal as angles wherever a circle is written; radii of different units need
not be. An ellipse of an image becomes a circle where the image has it as long as wide in the world. -/

namespace SkyRegion

open Image Text

namespace Image

/-- Every place is on the sky, and lengths are angles of one unit, each axis measured in its own way. -/
structure MeasuresSky (image : Image) (unit : Unit) (measure : Axis → Number → Number) : Prop where
  place : ∀ asked x y, ∃ longitude latitude, image.answer asked (.toWorld x y) = .ok (longitude, latitude) ∧
    longitude.HasValueIn .degree ∧ latitude.HasValueIn .degree
  length : ∀ asked length axis, image.answer asked (.toWorldLength length axis) = .ok ⟨measure axis length, unit⟩
  angular : ∀ number, (⟨number, unit⟩ : Quantity).HasValueIn .arcsecond

/-- An image of the sky on which a place is its own degrees, and a pixel has some arcseconds along each axis. -/
def stretched (factor : Axis → Number) : Image where
  answer _
    | .hasSkyFrame => .ok true
    | .skyFrameName => .ok Frame.j2000.name
    | .hasLinearFrame => .ok false
    | .toPixel .. => .ok none
    | .toPixelLength .. => .error (.unavailable [])
    | .toWorld x y => .ok (⟨x, .degree⟩, ⟨y, .degree⟩)
    | .toWorldLength length axis => .ok ⟨length * factor axis, .arcsecond⟩

theorem stretched_measuresSky (factor : Axis → Number) :
    (stretched factor).MeasuresSky .arcsecond fun axis length => length * factor axis where
  place _ _ _ := ⟨_, _, rfl, rfl, rfl⟩
  length _ _ _ := rfl
  angular _ := rfl

end Image

/-- The quantities that an ellipse is given by. -/
structure EllipseQuantities where
  x : Quantity
  y : Quantity
  width : Quantity
  height : Quantity

namespace EllipseQuantities

def quantities (ellipse : EllipseQuantities) : List Quantity := [ellipse.x, ellipse.y, ellipse.width, ellipse.height]

/-- All of them measure angles, in whatever units. -/
structure IsAngular (ellipse : EllipseQuantities) : Prop where
  x : ellipse.x.HasValueIn .degree
  y : ellipse.y.HasValueIn .degree
  width : ellipse.width.HasValueIn .arcsecond
  height : ellipse.height.HasValueIn .arcsecond

instance (ellipse : EllipseQuantities) : Decidable ellipse.IsAngular :=
  decidable_of_iff (ellipse.x.HasValueIn .degree ∧ ellipse.y.HasValueIn .degree ∧
      ellipse.width.HasValueIn .arcsecond ∧ ellipse.height.HasValueIn .arcsecond)
    ⟨fun ⟨x, y, width, height⟩ => ⟨x, y, width, height⟩,
      fun angular => ⟨angular.x, angular.y, angular.width, angular.height⟩⟩

/-- The radii are the same angle, as numbers of arcseconds. -/
def IsRound (ellipse : EllipseQuantities) : Prop :=
  (ellipse.width.numberIn .arcsecond).same (ellipse.height.numberIn .arcsecond) = true

instance (ellipse : EllipseQuantities) : Decidable ellipse.IsRound := by
  unfold IsRound
  infer_instance

/-- The definition with a single radius. -/
def circle (ellipse : EllipseQuantities) : Text :=
  Region.call "circle" [ellipse.x.degrees, ellipse.y.degrees, ellipse.width.arcseconds ++ ['"']]

/-- The definition with both radii and the angle. -/
def turned (ellipse : EllipseQuantities) (angle : Number) : Text :=
  Region.call "ellipse" [ellipse.x.degrees, ellipse.y.degrees, ellipse.width.arcseconds ++ ['"'],
    ellipse.height.arcseconds ++ ['"'], angle.angleText]

def definition (ellipse : EllipseQuantities) (angle : Number) : Text :=
  if ellipse.width.value.same ellipse.height.value then ellipse.circle else ellipse.turned angle

variable {ellipse : EllipseQuantities}

theorem definition_eq (angular : ellipse.IsAngular) (angle : Number) :
    QuantityStyle.definition .sky .ellipse ellipse.quantities angle = .ok (ellipse.definition angle) :=
  QuantityStyle.ellipse_sky angular.x angular.y angular.width angular.height angle

/-- In one unit equal numbers are equal angles. -/
theorem isRound_of_same (angular : ellipse.IsAngular) (units : ellipse.width.unit = ellipse.height.unit)
    (number : (ellipse.width.numberIn .arcsecond).isNan = false)
    (equal : ellipse.width.value.same ellipse.height.value = true) : ellipse.IsRound :=
  angular.width.numberIn_same units number equal

end EllipseQuantities

namespace Writer

/-- The line of a region begins with the call of a shape. -/
def IsCallOf (shape : String) (line : Text) : Prop := shape.toList ++ ['('] <+: line

theorem isCallOf_labelled (shape : String) (parts : List Text) (name : Text) :
    IsCallOf shape (labelled (Region.call shape parts) name ++ ['\n']) := by
  have begins : shape.toList ++ ['('] <+: Region.call shape parts :=
    ⟨Region.separated parts ++ [')'], by simp [Region.call]⟩
  refine begins.trans (List.IsPrefix.trans ?_ (List.prefix_append ..))
  rw [labelled]
  split
  · exact List.prefix_rfl
  · exact ⟨" # text=".toList ++ '{' :: name ++ ['}'], by simp⟩

/-- A line calls no two shapes of different names, unless one name begins the other. -/
theorem not_isCallOf {shape other : String} {line : Text} (calls : IsCallOf shape line)
    (apart : ¬other.toList ++ ['('] <+: shape.toList ++ ['('] ∧ ¬shape.toList ++ ['('] <+: other.toList ++ ['(']) :
    ¬IsCallOf other line := fun calls' =>
  (List.prefix_or_prefix_of_prefix calls' calls).elim apart.1 apart.2

variable {ellipse : EllipseQuantities}

/-- The line of an ellipse calls a circle exactly if its radii are equal as numbers, and an ellipse otherwise. -/
theorem isCallOf_definition (ellipse : EllipseQuantities) (angle : Number) (name : Text) :
    let line := labelled (ellipse.definition angle) name ++ ['\n']
    (IsCallOf "circle" line ↔ ellipse.width.value.same ellipse.height.value = true) ∧
      (IsCallOf "ellipse" line ↔ ellipse.width.value.same ellipse.height.value = false) := by
  intro line
  cases equal : ellipse.width.value.same ellipse.height.value with
  | true =>
    have written : line = labelled ellipse.circle name ++ ['\n'] := by
      simp only [line, EllipseQuantities.definition, equal, if_true]
    have calls : IsCallOf "circle" line := written ▸ isCallOf_labelled ..
    exact ⟨iff_of_true calls rfl, iff_of_false (not_isCallOf calls (by decide)) nofun⟩
  | false =>
    have written : line = labelled (ellipse.turned angle) name ++ ['\n'] := by
      simp only [line, EllipseQuantities.definition, equal, Bool.false_eq_true, if_false]
    have calls : IsCallOf "ellipse" line := written ▸ isCallOf_labelled ..
    exact ⟨iff_of_false (not_isCallOf calls (by decide)) nofun, iff_of_true calls rfl⟩

namespace Moment

variable {Files : Type} {write : Text → List UInt8 → StateM Files (Option Text)} {image : Image} {settings : Settings}
  {earlier asked : List Query} {opened : Writer} {files : Files} {moment : Moment Files}

/-- A writer for an image with a frame on the sky writes in degrees and arcseconds, whatever it was asked. -/
theorem Reached.sky (created : (create settings .world true).run.run image earlier = (.ok opened, asked))
    (framed : opened.frame ≠ []) (reached : Reached write image ⟨opened, files, asked, []⟩ moment) :
    moment.writer.space = .world ∧ moment.writer.style = .sky := by
  have made : ((create settings .world true).run.run image earlier).1 = .ok opened := congrArg Prod.fst created
  obtain ⟨written, same, _⟩ := reached.isGrown rfl (create_opened made).1
  obtain ⟨frame, lines, _, rfl⟩ := exists_create_world made
  rw [same]
  exact ⟨rfl, if_neg (mt List.isEmpty_iff.mp framed)⟩

/-- An ellipse given by quantities is added, as a circle exactly if its radii are equal as numbers. A circle therefore
stands for equal angles if the radii are of one unit. -/
theorem circle_line_iff (created : (create settings .world true).run.run image earlier = (.ok opened, asked))
    (framed : opened.frame ≠ []) (reached : Reached write image ⟨opened, files, asked, []⟩ moment)
    {ellipse : EllipseQuantities} (angular : ellipse.IsAngular) (angle : Number) (name : Text) : ∃ line,
      let call := Call.quantities .ellipse ellipse.quantities angle name
      moment.outcome write image call = .ok .added ∧ (moment.next write image call).writer = moment.writer.withLine line ∧
        (IsCallOf "circle" line ↔ ellipse.width.value.same ellipse.height.value = true) ∧
        (IsCallOf "circle" line → line = labelled ellipse.circle name ++ ['\n']) ∧
        (¬IsCallOf "circle" line → line = labelled (ellipse.turned angle) name ++ ['\n']) ∧
        (ellipse.width.unit = ellipse.height.unit → (ellipse.width.numberIn .arcsecond).isNan = false →
          IsCallOf "circle" line → ellipse.IsRound) := by
  obtain ⟨_, style⟩ := reached.sky created framed
  have adds : moment.writer.Adds image moment.asked (.quantities .ellipse ellipse.quantities angle name) _ :=
    .given rfl (style ▸ EllipseQuantities.definition_eq angular angle)
  obtain ⟨added, grown⟩ := next_of_adds write adds
  obtain ⟨circle, _⟩ := isCallOf_definition ellipse angle name
  refine ⟨_, added, grown, circle, ?_, ?_, ?_⟩
  · intro calls
    rw [EllipseQuantities.definition, if_pos (circle.mp calls)]
  · intro other
    rw [EllipseQuantities.definition, if_neg (mt circle.mpr other)]
  · intro units number calls
    exact EllipseQuantities.isRound_of_same angular units number (circle.mp calls)

/-- A new writer, for an image of the sky and without files to save to. -/
def fresh : Moment PUnit := ⟨Writer.opened "fk5".toList, ⟨⟩, [.hasSkyFrame, .skyFrameName], []⟩

def unsaved (_ : Text) (_ : List UInt8) : StateM PUnit (Option Text) := return some "full".toList

theorem stretched_created (factor : Axis → Number) : (create {} .world true).run.run (stretched factor) [] =
    (.ok fresh.writer, [.hasSkyFrame, .skyFrameName]) := by
  rfl

/-- Both radii count one arcminute, and the angle goes with their difference. -/
theorem circle_line_one_unit :
    let image := stretched fun _ => 1
    let ellipse : EllipseQuantities := ⟨⟨10, .degree⟩, ⟨20, .degree⟩, ⟨1, .arcminute⟩, ⟨1, .arcminute⟩⟩
    let call := Call.quantities .ellipse ellipse.quantities 30 []
    (create {} .world true).run.run image [] = (.ok fresh.writer, fresh.asked) ∧ fresh.writer.frame ≠ [] ∧
      Reached unsaved image fresh fresh ∧ ellipse.IsAngular ∧
        ∃ line, (fresh.next unsaved image call).writer = fresh.writer.withLine line ∧ IsCallOf "circle" line ∧
          ellipse.IsRound := by
  intro image ellipse call
  have angular : ellipse.IsAngular := by decide +kernel
  have created := stretched_created fun _ => 1
  have framed : fresh.writer.frame ≠ [] := by decide
  have reached : Reached unsaved image fresh fresh := .opened
  obtain ⟨line, _, grown, circle, _, _, round⟩ := circle_line_iff created framed reached angular 30 []
  have calls : IsCallOf "circle" line := circle.mpr (by decide +kernel)
  exact ⟨created, framed, reached, angular, line, grown, calls, round rfl (by decide +kernel) calls⟩

/-- A radius of one degree and one of an arcsecond make a circle, whose angle is lost. -/
theorem circle_line_two_units :
    let image := stretched fun _ => 1
    let ellipse : EllipseQuantities := ⟨⟨10, .degree⟩, ⟨20, .degree⟩, ⟨1, .degree⟩, ⟨1, .arcsecond⟩⟩
    let call := Call.quantities .ellipse ellipse.quantities 30 []
    let line := "circle(10.000000, 20.000000, 3600.0000\")\n".toList
    (create {} .world true).run.run image [] = (.ok fresh.writer, fresh.asked) ∧ fresh.writer.frame ≠ [] ∧
      Reached unsaved image fresh fresh ∧ ellipse.IsAngular ∧ fresh.outcome unsaved image call = .ok .added ∧
        (fresh.next unsaved image call).writer = fresh.writer.withLine line ∧ IsCallOf "circle" line ∧
          ¬ellipse.IsRound := by
  intro image ellipse call line
  exact ⟨stretched_created _, by decide, .opened, by decide +kernel, by decide +kernel, by decide +kernel,
    ⟨"10.000000, 20.000000, 3600.0000\")\n".toList, rfl⟩, by decide +kernel⟩

theorem toWorld_ellipse (asked : List Query) {unit : Unit} {measure : Axis → Number → Number}
    (measures : image.MeasuresSky unit measure) {region : Region} {center size : Point} (kind : region.kind = .ellipse)
    (points : region.points = [center, size]) :
    ∃ x y : Quantity, x.HasValueIn .degree ∧ y.HasValueIn .degree ∧ ((toWorld region).run.run image asked).1 =
      .ok [x, y, ⟨measure .horizontal size.x, unit⟩, ⟨measure .vertical size.y, unit⟩] := by
  obtain ⟨x, y, placed, xMeasured, yMeasured⟩ := measures.place asked center.x center.y
  have first : (request (.toWorld center.x center.y) : ExceptT Image.Fault Dialogue (Quantity × Quantity)).run.run image
      asked = _ := Dialogue.run_request placed
  have width (asked) : (request (.toWorldLength size.x .horizontal) : ExceptT Image.Fault Dialogue Quantity).run.run image
      asked = _ := Dialogue.run_request (measures.length asked size.x .horizontal)
  have height (asked) : (request (.toWorldLength size.y .vertical) : ExceptT Image.Fault Dialogue Quantity).run.run image
      asked = _ := Dialogue.run_request (measures.length asked size.y .vertical)
  refine ⟨x, y, xMeasured, yMeasured, ?_⟩
  rw [toWorld.eq_def, kind, points]
  simp only [askWorld, ExceptT.run_bind, Dialogue.run_bind, first, ExceptT.run_pure, Dialogue.run_pure, width, height]
  rfl

/-- An ellipse of an image is added. It is written with its angle exactly if its lengths in the world are different
numbers, and else as a circle. -/
theorem ellipse_line_iff (created : (create settings .world true).run.run image earlier = (.ok opened, asked))
    (framed : opened.frame ≠ []) (reached : Reached write image ⟨opened, files, asked, []⟩ moment) {unit : Unit}
    {measure : Axis → Number → Number} (measures : image.MeasuresSky unit measure) {region : Region} {center size : Point}
    (kind : region.kind = .ellipse) (points : region.points = [center, size]) :
    let width := measure .horizontal size.x
    let height := measure .vertical size.y
    ∃ (x y : Quantity) (line : Text),
      let ellipse : EllipseQuantities := ⟨x, y, ⟨width, unit⟩, ⟨height, unit⟩⟩
      moment.outcome write image (.region region) = .ok .added ∧
        (moment.next write image (.region region)).writer = moment.writer.withLine line ∧
        (IsCallOf "ellipse" line ↔ width.same height = false) ∧
        (IsCallOf "ellipse" line →
          line = labelled (ellipse.turned (toHorizontal region.rotation)) region.name ++ ['\n']) ∧
        (¬IsCallOf "ellipse" line → line = labelled ellipse.circle region.name ++ ['\n']) := by
  intro width height
  obtain ⟨space, style⟩ := reached.sky created framed
  obtain ⟨x, y, xMeasured, yMeasured, converted⟩ := toWorld_ellipse moment.asked measures kind points
  let ellipse : EllipseQuantities := ⟨x, y, ⟨width, unit⟩, ⟨height, unit⟩⟩
  have angular : ellipse.IsAngular := ⟨xMeasured, yMeasured, measures.angular width, measures.angular height⟩
  have angle : worldAngle region = toHorizontal region.rotation := by rw [worldAngle, kind]
  have defined := EllipseQuantities.definition_eq angular (worldAngle region)
  rw [← style, ← kind] at defined
  have adds : moment.writer.Adds image moment.asked (.region region) _ := .converted space converted defined
  rw [angle] at adds
  obtain ⟨added, grown⟩ := next_of_adds write adds
  obtain ⟨_, turned⟩ := isCallOf_definition ellipse (toHorizontal region.rotation) region.name
  refine ⟨x, y, _, added, grown, turned, ?_, ?_⟩
  · intro calls
    rw [EllipseQuantities.definition, if_neg (ne_true_of_eq_false (turned.mp calls))]
  · intro other
    rw [EllipseQuantities.definition, if_pos (by simpa using mt turned.mpr other)]

/-- Twice as long as wide, on an image that is stretched across, so that the angle is kept. -/
theorem ellipse_line_stretched :
    let factor : Axis → Number := fun | .horizontal => 1 | .vertical => 2
    let region : Region := ⟨.ellipse, [⟨10, 20⟩, ⟨1, 2⟩], 30, [], 0⟩
    (create {} .world true).run.run (stretched factor) [] = (.ok fresh.writer, fresh.asked) ∧ fresh.writer.frame ≠ [] ∧
      Reached unsaved (stretched factor) fresh fresh ∧
      (stretched factor).MeasuresSky .arcsecond (fun axis length => length * factor axis) ∧
        ∃ line, (fresh.next unsaved (stretched factor) (.region region)).writer = fresh.writer.withLine line ∧
          IsCallOf "ellipse" line ∧ ((1 : Number) * factor .horizontal).same (2 * factor .vertical) = false := by
  intro factor region
  have created := stretched_created factor
  have framed : fresh.writer.frame ≠ [] := by decide
  have reached : Reached unsaved (stretched factor) fresh fresh := .opened
  have measures := stretched_measuresSky factor
  obtain ⟨_, _, line, _, grown, turned, _⟩ := ellipse_line_iff created framed reached measures
    (show region.kind = .ellipse from rfl) rfl
  have unequal : ((1 : Number) * factor .horizontal).same (2 * factor .vertical) = false := by decide +kernel
  exact ⟨created, framed, reached, measures, line, grown, turned.mpr unequal, unequal⟩

/-- Twice as wide as long, it is as long as wide in the world, and its angle is lost. -/
theorem ellipse_line_rounded :
    let factor : Axis → Number := fun | .horizontal => 1 | .vertical => 2
    let region : Region := ⟨.ellipse, [⟨10, 20⟩, ⟨2, 1⟩], 30, [], 0⟩
    let line := "circle(10.000000, 20.000000, 2.0000\")\n".toList
    (create {} .world true).run.run (stretched factor) [] = (.ok fresh.writer, fresh.asked) ∧ fresh.writer.frame ≠ [] ∧
      Reached unsaved (stretched factor) fresh fresh ∧
      (stretched factor).MeasuresSky .arcsecond (fun axis length => length * factor axis) ∧
        (2 : Number).same 1 = false ∧
        (fresh.next unsaved (stretched factor) (.region region)).writer = fresh.writer.withLine line ∧
          ¬IsCallOf "ellipse" line := by
  intro factor region line
  have circle : IsCallOf "circle" line := ⟨"10.000000, 20.000000, 2.0000\")\n".toList, rfl⟩
  exact ⟨stretched_created factor, by decide, .opened, stretched_measuresSky factor, by decide +kernel, by decide +kernel,
    not_isCallOf circle (by decide)⟩

end Moment
end Writer
end SkyRegion
