import SkyRegion.CommonUnits.Library
import SkyRegion.Proofs.QuietHeader
import SkyRegion.Proofs.Reimport

/-! Points on images without a sky frame. They are written where they are in the world of the image, under a header
that has numbers counted in pixels; so they come back at their place in that world, and move unless the image leaves
them where they are. -/

namespace SkyRegion

open Image Text Floating

namespace Image

variable {image : Image}

/-- An image that has no frame on the sky, and can say whether it has a linear one. -/
structure LacksSky (image : Image) : Prop where
  sky : ∀ asked, image.answer asked .hasSkyFrame = .ok false
  linear : ∀ asked, ∃ linear, image.answer asked .hasLinearFrame = .ok linear

namespace LacksSky

variable (lacks : image.LacksSky)
include lacks

/-- Whatever the frame of such an image is called, no keyword declares it. -/
theorem frameName_run (asked : List Query) :
    ∃ name, (frameName.run.run image asked).1 = .ok name ∧ Frame.writtenKeyword name = [] := by
  obtain ⟨linear, answered⟩ := lacks.linear (asked ++ [.hasSkyFrame])
  have sky : (request .hasSkyFrame : ExceptT Fault Dialogue Bool).run.run image asked = _ :=
    Dialogue.run_request (lacks.sky asked)
  have further : (request .hasLinearFrame : ExceptT Fault Dialogue Bool).run.run image (asked ++ [.hasSkyFrame]) = _ :=
    Dialogue.run_request answered
  refine ⟨if linear then "linear".toList else "physical".toList, ?_, ?_⟩
  · simp only [frameName, ExceptT.run_bind, Dialogue.run_bind, sky, Bool.false_eq_true, if_false, further]
    cases linear <;> rfl
  · cases linear <;> decide +kernel

theorem namesFrame : image.NamesFrame := fun asked => (lacks.frameName_run asked).imp fun _ named => named.1

end LacksSky

end Image

/-- An exact map of the pixels along one axis to the world. -/
structure AxisMap where
  origin : Rat
  scale : Rat
  proper : scale ≠ 0

namespace AxisMap

def value (map : AxisMap) (x : Number) : Rat := map.origin + map.scale * x.toRat

/-- The exact value is a number. -/
structure Takes (map : AxisMap) (x place : Number) : Prop where
  source : x.isFinite = true
  target : place.isFinite = true
  value : place.toRat = map.value x

end AxisMap

namespace Image

/-- Without a sky frame, and exact wherever its exact places in the world are numbers. -/
structure IsAffine (image : Image) (horizontal vertical : AxisMap) : Prop extends image.LacksSky where
  world : ∀ asked x y, (∃ place, horizontal.Takes x place) → (∃ place, vertical.Takes y place) → ∃ first second : Quantity,
    image.answer asked (.toWorld x y) = .ok (first, second) ∧ horizontal.Takes x first.value ∧ vertical.Takes y second.value

/-- The image of two maps. A place in the world is rounded once. -/
def affine (horizontal vertical : AxisMap) : Image where
  answer _
    | .hasSkyFrame => .ok false
    | .skyFrameName => .ok []
    | .hasLinearFrame => .ok true
    | .toPixel .. => .ok none
    | .toPixelLength .. => .error (.unavailable [])
    | .toWorld x y => .ok (⟨.ofRat (horizontal.value x), .pixel⟩, ⟨.ofRat (vertical.value y), .pixel⟩)
    | .toWorldLength .. => .error (.unavailable [])

theorem affine_isAffine (horizontal vertical : AxisMap) : (affine horizontal vertical).IsAffine horizontal vertical := by
  have rounded {map : AxisMap} {x : Number} : (∃ place, map.Takes x place) → map.Takes x (.ofRat (map.value x)) := by
    rintro ⟨place, takes⟩
    obtain ⟨finite, value⟩ := toRat_ofRat BinaryFormat.double_isProper takes.target
    rw [← takes.value]
    exact ⟨takes.source, finite, value.trans takes.value⟩
  exact {
    sky := fun _ => rfl
    linear := fun _ => ⟨true, rfl⟩
    world := fun _ _ _ first second => ⟨_, _, rfl, rounded first, rounded second⟩ }

end Image

namespace Writer

variable {image : Image} {asked : List Query} {writer : Writer} {region : Region} {point : Point} {first second : Quantity}

theorem addRegion_linear (world : writer.space = .world) (linear : writer.style = .linear) (kind : region.kind = .point)
    (points : region.points = [point]) (answered : image.answer asked (.toWorld point.x point.y) = .ok (first, second)) :
    ((writer.addRegion region).run.run image asked).1 =
      .ok (writer.append (Region.call "point" [first.value.fixed 6, second.value.fixed 6]) region.name) := by
  have placed : (request (.toWorld point.x point.y) : ExceptT Image.Fault Dialogue (Quantity × Quantity)).run.run image
      asked = _ := Dialogue.run_request answered
  have asks : (toWorld region).run.run image asked = (.ok [first, second], asked ++ [.toWorld point.x point.y]) := by
    rw [toWorld.eq_def, kind, points]
    simp only [askWorld, ExceptT.run_bind, Dialogue.run_bind, placed]
    rfl
  rw [addRegion.eq_def, world]
  simp only [ExceptT.run_bind, Dialogue.run_bind, Dialogue.run_adapt, asks, Except.mapError, linear, kind]
  rfl

end Writer
namespace Import

variable {image : Image} {state : ImportState} {x y name : Text}

theorem isWritten_point (xText : IsNumberText x) (yText : IsNumberText y) :
    IsWritten (Region.call "point" [x, y]) .point [x, y] :=
  Region.isWritten_call_of_tokens (by decide) (by simpa using ⟨xText.isToken, yText.isToken⟩) rfl

/-- Among pixels the line of a point adds the point that it says, whatever its name is read as. -/
theorem importEach_point [UnitLibrary] (xText : IsNumberText x) (yText : IsNumberText y)
    (visible : holds "global".toList name = false) (reads : state.currentMode? = some .pixels) (start : Nat) : ∃ label,
      ((numbered start [Writer.labelled (Region.call "point" [x, y]) name]).forM fun line =>
        importLine line.number line.text.trim).run.run state =
          pure (.ok ⟨⟩, state.add ⟨[⟨.point, [⟨x.number, y.number⟩], 0, label, state.fileId⟩], []⟩) := by
  have written := isWritten_point xText yText
  have read : Shape.read .pixels .point ShapeKeyword.point.name [x, y] = _ :=
    Shape.readPoint_of_readsAs xText.readsAs yText.readsAs xText.isToken.ne_point
  have line := importLine_labelled written rfl visible reads read start
  rw [numbered_cons, List.forM, run_bind, trim_trim, line]
  exact ⟨_, rfl⟩

/-- Without a sky frame a point is read where its image says that it is in the world. -/
theorem exchanged_point [UnitLibrary] (lacks : image.LacksSky) {settings : Settings} {asked before after : List Query}
    {fileId : Int} {writer : Writer} (made : ((Writer.create settings .world true).run.run image asked).1 = .ok writer)
    (quiet : (imported image after fileId writer.lines.flatten).1 = .ok ⟨[], []⟩) {region : Region}
    {point : Point} (kind : region.kind = .point) (points : region.points = [point])
    (undivided : ';' ∉ region.name) (single : ∀ c ∈ region.name, isLineBreak c = false)
    (visible : holds "global".toList region.name = false) {first second : Quantity}
    (answered : image.answer before (.toWorld point.x point.y) = .ok (first, second))
    (finite : first.value.isFinite = true) (finite' : second.value.isFinite = true) :
    ∃ writer' lines label, ((writer.addRegion region).run.run image before).1 = .ok writer' ∧
      writer'.finished = .ok lines ∧ (imported image after fileId lines.flatten).1 =
        .ok ⟨[⟨.point, [⟨(first.value.fixed 6).number, (second.value.fixed 6).number⟩], 0, label, fileId⟩], []⟩ := by
  obtain ⟨name, named, unwritten⟩ := lacks.frameName_run asked
  obtain ⟨header, headed, rfl⟩ := Writer.create_world named unwritten made
  obtain ⟨opening, text⟩ := Writer.header_flatten headed
  have xText := fixed_isNumberText finite 5
  have yText := fixed_isNumberText finite' 5
  have written := isWritten_point xText yText
  have declares : Declares (Writer.frameLine []) .pixels := by decide +kernel
  have adds (state : ImportState) (start : Nat) (file : state.fileId = fileId) (reads : state.currentMode? = some .pixels) :
      (((numbered start [Writer.labelled (Region.call "point" [first.value.fixed 6, second.value.fixed 6])
        region.name]).forM fun line => importLine line.number line.text.trim).run.run state).Converts image
          fun outcome _ => ∃ part mode?, Continues state mode? outcome (.ok part) ∧ ∃ label, part =
            ⟨[⟨.point, [⟨(first.value.fixed 6).number, (second.value.fixed 6).number⟩], 0, label, fileId⟩], []⟩ := by
    obtain ⟨label, run⟩ := importEach_point xText yText visible reads start
    rw [run, file]
    exact .pure ⟨_, _, continues_added (.ok _), label, rfl⟩
  obtain ⟨_, _, read, _, label, rfl⟩ := imported_after_header lacks.namesFrame quiet text declares
    (List.forall_mem_singleton.mpr (written.isLineBreak_labelled single))
    (List.forall_mem_singleton.mpr (written.undivided_labelled undivided)) adds after
  have added := @Writer.addRegion_linear image before ⟨.world, [], .linear, header, 0⟩ region point first second
    rfl rfl kind points answered
  exact ⟨_, _, label, added, rfl, read⟩

/-- Twice the pixels, from ten on across and from twenty on up. -/
def doubledAcross : AxisMap := ⟨10, 2, by decide⟩

def doubledUp : AxisMap := ⟨20, 2, by decide⟩

def doubled : Image := affine doubledAcross doubledUp

def doubledPoint : Region := ⟨.point, [⟨1, 2⟩], 0, [], 0⟩

theorem doubled_opened : ((Writer.create {} .world true).run.run doubled []).1 = .ok (Writer.opened []) := by
  decide +kernel

theorem doubled_quiet [UnitLibrary] (fileId : Int) (asked : List Query) :
    (imported doubled asked fileId (Writer.opened []).lines.flatten).1 = .ok ⟨[], []⟩ :=
  (imported_eq_nothing_iff (affine_isAffine _ _).namesFrame asked fileId _).mpr (by decide +kernel)

/-- Where a point is read that lies at whole places in the world of its image. -/
theorem exchanged_point_in_world [UnitLibrary] {horizontal vertical : AxisMap} (affine : image.IsAffine horizontal vertical)
    {settings : Settings} {asked before after : List Query} {fileId : Int} {writer : Writer}
    (made : ((Writer.create settings .world true).run.run image asked).1 = .ok writer)
    (quiet : (imported image after fileId writer.lines.flatten).1 = .ok ⟨[], []⟩) {region : Region}
    {x y : Number} (kind : region.kind = .point) (points : region.points = [⟨x, y⟩])
    (undivided : ';' ∉ region.name) (single : ∀ c ∈ region.name, isLineBreak c = false)
    (visible : holds "global".toList region.name = false) {m n : Int}
    (across : ∃ place, horizontal.Takes x place ∧ IsInt place m) (up : ∃ place, vertical.Takes y place ∧ IsInt place n) :
    ∃ writer' lines region' x' y', ((writer.addRegion region).run.run image before).1 = .ok writer' ∧
      writer'.finished = .ok lines ∧ (imported image after fileId lines.flatten).1 = .ok ⟨[region'], []⟩ ∧
        region'.kind = .point ∧ region'.points = [⟨x', y'⟩] ∧ IsInt x' m ∧ IsInt y' n ∧
          (x'.same x = true ∧ y'.same y = true ↔ horizontal.value x = x.toRat ∧ vertical.value y = y.toRat) := by
  obtain ⟨place, takes, whole⟩ := across
  obtain ⟨place', takes', whole'⟩ := up
  obtain ⟨first, second, answered, exact, exact'⟩ := affine.world before x y ⟨place, takes⟩ ⟨place', takes'⟩
  obtain ⟨writer', lines, label, added, finished, read⟩ := exchanged_point affine.toLacksSky made quiet kind points
    undivided single visible answered exact.target exact'.target
  have across : IsInt first.value m := ⟨exact.target, by rw [exact.value, ← takes.value, whole.value]⟩
  have up : IsInt second.value n := ⟨exact'.target, by rw [exact'.value, ← takes'.value, whole'.value]⟩
  have readAcross := across.number_fixed (show 5 < 399 by decide)
  have readUp := up.number_fixed (show 5 < 399 by decide)
  refine ⟨writer', lines, _, _, _, added, finished, read, rfl, rfl, readAcross, readUp, ?_⟩
  rw [same_iff readAcross.finite takes.source, same_iff readUp.finite takes'.source, readAcross.value, readUp.value,
    ← takes.value, ← takes'.value, whole.value, whole'.value]

section

open CommonUnits

theorem exchanged_point_doubled : doubled.IsAffine doubledAcross doubledUp ∧
    ((Writer.create {} .world true).run.run doubled []).1 = .ok (Writer.opened []) ∧
      (imported doubled [] 0 (Writer.opened []).lines.flatten).1 = .ok ⟨[], []⟩ ∧
        doubledAcross.Takes 1 12 ∧ doubledUp.Takes 2 24 ∧
          ∃ writer lines region x y, (((Writer.opened []).addRegion doubledPoint).run.run doubled []).1 = .ok writer ∧
            writer.finished = .ok lines ∧ (imported doubled [] 0 lines.flatten).1 = .ok ⟨[region], []⟩ ∧
              region.points = [⟨x, y⟩] ∧ IsInt x 12 ∧ IsInt y 24 := by
  have affine : doubled.IsAffine doubledAcross doubledUp := affine_isAffine _ _
  have across : doubledAcross.Takes 1 12 := ⟨by decide +kernel, by decide +kernel, by decide +kernel⟩
  have up : doubledUp.Takes 2 24 := ⟨by decide +kernel, by decide +kernel, by decide +kernel⟩
  obtain ⟨writer, lines, region, x, y, added, finished, read, _, points, wholeX, wholeY, _⟩ :=
    exchanged_point_in_world affine doubled_opened (doubled_quiet 0 []) (show doubledPoint.kind = .point from rfl) rfl
      (by decide) (List.forall_mem_nil _) (by decide) ⟨12, across, show IsInt 12 12 by decide +kernel⟩
      ⟨24, up, show IsInt 24 24 by decide +kernel⟩
  exact ⟨affine, doubled_opened, doubled_quiet 0 [], across, up, writer, lines, region, x, y, added, finished, read, points,
    wholeX, wholeY⟩

/-- A point at (1, 2) that is written as (12, 24) is read there. -/
theorem exchanged_point_moved : doubled.IsAffine doubledAcross doubledUp ∧ doubledAcross.Takes 1 12 ∧ doubledUp.Takes 2 24 ∧
    ∃ writer writer' lines region, ((Writer.create {} .world true).run.run doubled []).1 = .ok writer ∧
      ((writer.addRegion doubledPoint).run.run doubled []).1 = .ok writer' ∧ writer'.finished = .ok lines ∧
        (imported doubled [] 0 lines.flatten).1 = .ok ⟨[region], []⟩ ∧
          region.points = [⟨12, 24⟩] ∧ doubledPoint.points = [⟨1, 2⟩] := by
  have affine : doubled.IsAffine doubledAcross doubledUp := affine_isAffine _ _
  have across : doubledAcross.Takes 1 12 := ⟨by decide +kernel, by decide +kernel, by decide +kernel⟩
  have up : doubledUp.Takes 2 24 := ⟨by decide +kernel, by decide +kernel, by decide +kernel⟩
  have rereadAcross : ((ofRat (doubledAcross.value 1) : Number).fixed 6).number = 12 := by decide +kernel
  have rereadUp : ((ofRat (doubledUp.value 2) : Number).fixed 6).number = 24 := by decide +kernel
  obtain ⟨writer, lines, label, added, finished, read⟩ := exchanged_point affine.toLacksSky doubled_opened
    (doubled_quiet 0 []) (show doubledPoint.kind = .point from rfl) rfl (by decide) (List.forall_mem_nil _) (by decide)
    (show doubled.answer [] (.toWorld 1 2) = _ from rfl) (by decide +kernel) (by decide +kernel)
  rw [rereadAcross, rereadUp] at read
  exact ⟨affine, across, up, _, writer, lines, _, doubled_opened, added, finished, read, rfl, rfl⟩

end

end Import
end SkyRegion
