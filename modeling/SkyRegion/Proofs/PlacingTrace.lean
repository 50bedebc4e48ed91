import SkyRegion.Proofs.Returning
import SkyRegion.Proofs.Unplaced

/-! The questions that place a shape on the sky. They are put in a fixed order, each position before any length, and no
further one after the first that comes to nothing; the shape is placed exactly if each of them comes to pixels. -/

namespace SkyRegion

open Image Text

namespace Image

/-- There is a question that the image fails at. -/
def Fails (image : Image) (fault : Fault) : Prop := ∃ asked query, image.answer asked query = .error fault

/-- Every position is placed and every length is measured. -/
structure AcceptsConversions (image : Image) : Prop where
  places : ∀ asked frame x y, ∃ pixel, image.answer asked (.toPixel frame x y) = .ok (some pixel)
  measures : ∀ asked length axis, ∃ pixels, image.answer asked (.toPixelLength length axis) = .ok pixels

theorem AcceptsConversions.answers {image : Image} (accepts : image.AcceptsConversions) : image.AnswersConversions where
  places asked frame x y := (accepts.places asked frame x y).imp' some fun _ => id
  measures asked length axis := .inl (accepts.measures asked length axis)

theorem plane_acceptsConversions : plane.AcceptsConversions :=
  ⟨fun _ _ x y => ⟨(x.value, y.value), rfl⟩, fun _ length _ => ⟨length.value, rfl⟩⟩

/-- The conversion comes to pixels, in the light of what has been asked before. -/
def grants (image : Image) (asked : List Query) : Query → Bool
  | .toPixel frame x y =>
    match image.answer asked (.toPixel frame x y) with
    | .ok (some _) => true
    | _ => false
  | .toPixelLength length axis =>
    match image.answer asked (.toPixelLength length axis) with
    | .ok _ => true
    | _ => false
  | _ => false

def grantsAll (image : Image) (asked : List Query) : List Query → Bool
  | [] => true
  | query :: rest => image.grants asked query && image.grantsAll (asked ++ [query]) rest

/-- What is asked of some questions: all up to the first that comes to nothing. -/
def put (image : Image) (asked : List Query) : List Query → List Query
  | [] => []
  | query :: rest => query :: if image.grants asked query then image.put (asked ++ [query]) rest else []

variable {image : Image} {asked first second : List Query}

theorem grantsAll_of_forall (each : ∀ before, ∀ query ∈ first, image.grants before query = true) :
    image.grantsAll asked first = true := by
  induction first generalizing asked with
  | nil => rfl
  | cons query rest ih =>
    rw [grantsAll, each asked query List.mem_cons_self, Bool.true_and]
    exact ih fun before query listed => each before query (List.mem_cons_of_mem _ listed)

theorem put_of_grantsAll (granted : image.grantsAll asked first = true) : image.put asked first = first := by
  induction first generalizing asked with
  | nil => rfl
  | cons query rest ih =>
    rw [grantsAll, Bool.and_eq_true] at granted
    rw [put, if_pos granted.1, ih granted.2]

theorem grantsAll_append (image : Image) (asked first second : List Query) : image.grantsAll asked (first ++ second) =
    (image.grantsAll asked first && image.grantsAll (asked ++ first) second) := by
  induction first generalizing asked with
  | nil => simp [grantsAll]
  | cons query rest ih =>
    rw [List.cons_append, grantsAll, grantsAll, ih, Bool.and_assoc, List.append_assoc, List.singleton_append]

theorem put_append_of_grantsAll (granted : image.grantsAll asked first = true) :
    image.put asked (first ++ second) = first ++ image.put (asked ++ first) second := by
  induction first generalizing asked with
  | nil => simp
  | cons query rest ih =>
    rw [grantsAll, Bool.and_eq_true] at granted
    rw [List.cons_append, put, if_pos granted.1, ih granted.2, List.append_assoc]
    rfl

theorem put_append_of_not_grantsAll (refused : image.grantsAll asked first = false) :
    image.put asked (first ++ second) = image.put asked first := by
  induction first generalizing asked with
  | nil => cases refused
  | cons query rest ih =>
    rw [grantsAll, Bool.and_eq_false_iff] at refused
    rw [List.cons_append, put, put]
    cases granted : image.grants asked query with
    | false => rfl
    | true =>
      simp only [granted, Bool.true_eq_false, false_or] at refused
      rw [if_pos rfl, if_pos rfl, ih refused]

end Image

/-- The work puts some questions in their order. It comes to a value if all of them come to pixels, and else to a complaint
about a shape, as soon as one of them comes to nothing. -/
def Placing.Follows (work : Placing α) (image : Image) (shape : Text) (questions : List Query) (post : α → Prop) : Prop :=
  ∀ asked, (work.run.run image asked).2 = asked ++ image.put asked questions ∧
    match (work.run.run image asked).1 with
    | .ok value => image.grantsAll asked questions = true ∧ post value
    | .error setback => image.grantsAll asked questions = false ∧ setback = .complaint (.notPlaced shape)

namespace Placing.Follows

variable {image : Image} {shape : Text} {middle : α → Prop} {post : β → Prop} {first second : List Query}

theorem pure {value : β} (holds : post value) : Follows (Pure.pure value) image shape [] post :=
  fun _ => ⟨(List.append_nil _).symm, rfl, holds⟩

theorem bind {work : Placing α} {next : α → Placing β} (follows : Follows work image shape first middle)
    (rest : ∀ value, middle value → Follows (next value) image shape second post) :
    Follows (work >>= next) image shape (first ++ second) post := by
  intro asked
  obtain ⟨log, outcome⟩ := follows asked
  rw [ExceptT.run_bind, Dialogue.run_bind]
  cases result : (work.run.run image asked).1 with
  | error setback =>
    rw [result] at outcome
    obtain ⟨refused, rfl⟩ := outcome
    refine ⟨?_, ?_, rfl⟩
    · rw [put_append_of_not_grantsAll refused]
      exact log
    · rw [grantsAll_append, refused, Bool.false_and]
  | ok value =>
    rw [result] at outcome
    obtain ⟨granted, holds⟩ := outcome
    rw [put_of_grantsAll granted] at log
    rw [log, put_append_of_grantsAll granted, grantsAll_append, granted, Bool.true_and, ← List.append_assoc]
    exact rest value holds (asked ++ first)

theorem mono {work : Placing β} {stronger : β → Prop} (follows : Follows work image shape first stronger)
    (implies : ∀ value, stronger value → post value) : Follows work image shape first post := by
  intro asked
  obtain ⟨log, outcome⟩ := follows asked
  refine ⟨log, ?_⟩
  cases result : (work.run.run image asked).1 with
  | error setback =>
    rw [result] at outcome
    exact outcome
  | ok value =>
    rw [result] at outcome
    exact ⟨outcome.1, implies value outcome.2⟩

/-- Items are placed one after the other, each by a question of its own. -/
theorem mapM {f : α → Placing β} {question : α → Query} (items : List α)
    (each : ∀ item, Follows (f item) image shape [question item] fun _ => True) :
    Follows (items.mapM f) image shape (items.map question) fun values => values.length = items.length := by
  induction items with
  | nil => exact .pure rfl
  | cons item rest ih =>
    rw [List.mapM_cons]
    refine .bind (each item) fun value _ => ?_
    rw [← List.append_nil (rest.map question)]
    exact .bind ih fun values count => .pure (congrArg (· + 1) count)

end Placing.Follows

namespace Shape

/-- The lengths of a shape, each with the axis that it is measured along. -/
def lengths : Shape → List (Quantity × Axis)
  | .box _ extent _ => [(extent.width, .horizontal), (extent.height, .vertical)]
  | .ellipse _ extent _ => [(extent.width, .horizontal), (extent.height, .vertical)]
  | _ => []

/-- The questions by which a shape on the sky is placed. -/
def questions (frame : Frame) (shape : Shape) : List Query :=
  (shape.positions.map fun position => .toPixel frame position.x position.y) ++
    shape.lengths.map fun (length, axis) => .toPixelLength length axis

variable {image : Image} (answers : image.AnswersConversions) (frame : Frame) (name : Text)
include answers

theorem placePosition_follows (position : Position) :
    (placePosition (.sky frame) name position).Follows image name [.toPixel frame position.x position.y] fun _ => True := by
  intro asked
  obtain ⟨pixel?, replied⟩ := answers.places asked frame position.x position.y
  rw [placePosition_run, replied, put, put, ite_self, grantsAll, grantsAll, Bool.and_true, grants, replied]
  cases pixel? with
  | none => exact ⟨rfl, rfl, rfl⟩
  | some pixel => exact ⟨rfl, rfl, trivial⟩

theorem placeLength_follows (length : Quantity) (axis : Axis) :
    (placeLength name length axis).Follows image name [.toPixelLength length axis] fun _ => True := by
  intro asked
  rw [placeLength_run, put, put, ite_self, grantsAll, grantsAll, Bool.and_true, grants]
  rcases answers.measures asked length axis with ⟨pixels, replied⟩ | ⟨fault, replied, refusal⟩
  · rw [replied]
    exact ⟨rfl, rfl, trivial⟩
  · rw [replied, measured, if_pos refusal]
    exact ⟨rfl, rfl, rfl⟩

theorem placeExtent_follows (extent : Extent) : (placeExtent (.sky frame) name extent).Follows image name
    [.toPixelLength extent.width .horizontal, .toPixelLength extent.height .vertical] fun _ => True :=
  .bind (placeLength_follows answers name extent.width .horizontal) fun _ _ =>
    .bind (placeLength_follows answers name extent.height .vertical) fun _ _ => .pure trivial

theorem placeCentered_follows (center : Position) (extent : Extent) :
    (placeCentered (.sky frame) name center extent).Follows image name
      [.toPixel frame center.x center.y, .toPixelLength extent.width .horizontal, .toPixelLength extent.height .vertical]
      (·.length = 2) :=
  .bind (placePosition_follows answers frame name center) fun _ _ =>
    .bind (placeExtent_follows answers frame name extent) fun _ _ => .pure rfl

theorem placePoints_follows {shape : Shape} (complete : shape.IsComplete) :
    (placePoints (.sky frame) shape).Follows image shape.name (shape.questions frame)
      fun points => shape.kind.fits points.length = true := by
  cases shape with
  | point position => exact .bind (placePosition_follows answers frame _ position) fun _ _ => .pure rfl
  | box center extent rotation | ellipse center extent rotation =>
    exact (placeCentered_follows answers frame _ center extent).mono fun _ count => decide_eq_true count
  | polygon vertices =>
    have each : (polygon vertices).questions frame = vertices.map fun vertex => .toPixel frame vertex.x vertex.y :=
      List.append_nil _
    rw [each]
    refine (Placing.Follows.mapM vertices (placePosition_follows answers frame _)).mono fun points count => ?_
    rw [Shape.kind, RegionKind.fits, count]
    exact decide_eq_true complete

/-- A complete shape is placed by its questions. -/
theorem place_follows {shape : Shape} (complete : shape.IsComplete) (label : Text) (fileId : Int) :
    (shape.place (.sky frame) label fileId).Follows image shape.name (shape.questions frame)
      fun region => ∃ points, region = ⟨shape.kind, points, shape.rotation, label, fileId⟩ := by
  rw [← List.append_nil (shape.questions frame)]
  refine .bind (placePoints_follows answers frame complete) fun points fits => ?_
  simp only [Region.check, fits, if_true]
  exact .pure ⟨points, rfl⟩

end Shape
end SkyRegion
