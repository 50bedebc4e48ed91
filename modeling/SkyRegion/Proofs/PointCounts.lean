import SkyRegion.Proofs.Returning

/-! Regions have as many points as their kind needs. Reading a shape counts no points, and a complete shape is placed with
the points it needs, whatever the image answers; so the check of that count never fails. -/

namespace SkyRegion

open Image Text

/-- An interruption by points that are too many or too few. -/
def Setback.IsMiscount : Setback → Prop
  | .interruption (.region _) => True
  | _ => False

abbrev Miscounts (result : Except Setback α) : Prop := FailsWith Setback.IsMiscount result

theorem not_miscounts_complaint (result : Except Complaint α) : ¬Miscounts (result.mapError .complaint) := by
  cases result <;> exact id

theorem Token.not_miscounts_quantity [UnitLibrary] (shape : Text) (place : Unit) (latitude : Bool) (token : Text) :
    ¬Miscounts (quantity shape place latitude token) := by
  apply not_failsWith_bind (not_miscounts_complaint _)
  intro text
  apply not_failsWith_bind
  · cases Quantity.read text <;> exact id
  · intro read?
    cases read? <;> exact id

namespace Shape

variable [UnitLibrary]

theorem not_miscounts_quantities (shape : Text) (place : Nat → Unit) (latitude : Nat → Bool) (tokens : List Text) :
    ¬Miscounts (quantities shape place latitude tokens) := by
  rw [quantities]
  generalize 0 = start
  induction tokens generalizing start with
  | nil => exact id
  | cons token rest ih =>
    rw [List.zipIdx_cons, List.mapM_cons]
    apply not_failsWith_bind (Token.not_miscounts_quantity shape _ _ token)
    intro quantity
    exact not_failsWith_bind (ih _) fun _ => id

variable (mode : PositionMode)

theorem not_miscounts_readCentered (shape : Text) (arguments : List Text) :
    ¬Miscounts (readCentered mode shape arguments) := by
  apply not_failsWith_bind (not_miscounts_complaint _)
  intro accepted
  apply not_failsWith_bind (not_miscounts_quantities _ _ _ _)
  intro quantities
  apply not_failsWith_bind (not_miscounts_complaint _)
  intro angle
  split <;> exact id

theorem not_miscounts_readEllipse (arguments : List Text) : ¬Miscounts (readEllipse mode arguments) :=
  not_failsWith_bind (not_miscounts_readCentered mode _ arguments) fun _ => id

/-- Reading a shape counts no points of a region. -/
theorem not_miscounts_read (keyword : ShapeKeyword) (word : Text) (arguments : List Text) :
    ¬Miscounts (read mode keyword word arguments) := by
  cases keyword with
  | point =>
    rw [read, readPoint]
    split
    · exact id
    · apply not_failsWith_bind (not_miscounts_quantities _ _ _ _)
      intro quantities
      split <;> exact id
  | circle =>
    rw [read, readCircle.eq_def]
    split
    · exact not_miscounts_readEllipse mode _
    · exact id
  | ellipse => exact not_miscounts_readEllipse mode arguments
  | box => exact not_failsWith_bind (not_miscounts_readCentered mode _ arguments) fun _ => id
  | polygon =>
    rw [read, readPolygon]
    by_cases odd : arguments.length % 2 ≠ 0
    · rw [if_pos odd]
      exact id
    by_cases few : arguments.length / 2 < 3
    · rw [if_neg odd, if_pos few]
      exact id
    rw [if_neg odd, if_neg few]
    exact not_failsWith_bind (not_miscounts_quantities _ _ _ _) fun _ => id
  | _ => exact id

end Shape

/-- A region as an import makes it for a file. -/
structure Region.IsImported (region : Region) (fileId : Int) : Prop where
  file : region.fileId = fileId
  points : match region.kind with
    | .point => region.points.length = 1
    | .rectangle => region.points.length = 2
    | .ellipse => region.points.length = 2
    | .polygon => 3 ≤ region.points.length
  rotation : region.kind = .point ∨ region.kind = .polygon → region.rotation = 0

namespace Shape

variable (image : Image) (mode : PositionMode)

theorem placePosition_leads_of_any (shape : Text) (position : Position) :
    (placePosition mode shape position).Leads image (fun _ => True) (¬·.IsMiscount) := by
  cases mode with
  | pixels => exact .pure trivial
  | sky frame =>
    intro asked
    rw [placePosition_run]
    rcases image.answer asked (.toPixel frame position.x position.y) with fault | _ | pixel
    · exact id
    · exact id
    · trivial

theorem placeLength_leads_of_any (shape : Text) (length : Quantity) (axis : Axis) :
    (placeLength shape length axis).Leads image (fun _ => True) (¬·.IsMiscount) := by
  intro asked
  rw [placeLength_run]
  cases image.answer asked (.toPixelLength length axis) with
  | ok pixels => trivial
  | error fault =>
    change ¬Setback.IsMiscount (if fault.isRefusal then _ else _)
    split <;> exact id

/-- Whatever an image answers, a complete shape is placed with the points that its kind needs. -/
theorem place_imports {shape : Shape} (complete : shape.IsComplete) (label : Text) (fileId : Int) :
    (shape.place mode label fileId).Leads image (·.IsImported fileId) (¬·.IsMiscount) := by
  have positions := placePosition_leads_of_any image mode shape.name
  have lengths := placeLength_leads_of_any image shape.name
  refine (place_leads mode positions lengths rfl complete label fileId).mono ?_
  rintro _ ⟨points, fits, rfl⟩
  refine ⟨rfl, ?_, ?_⟩ <;> cases shape <;> simp_all [kind, rotation, RegionKind.fits]

end Shape

end SkyRegion
