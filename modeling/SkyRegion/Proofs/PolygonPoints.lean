import SkyRegion.Proofs.SpelledLine
import SkyRegion.Proofs.StoredTurn

/-! A polygon as its points. Every second token of it is read as the second coordinate of a point is, and each vertex is
placed for itself; so on an image whose answers do not change a polygon is imported exactly if all its points are, and it
goes through them. Whether its edges cross is nobody's concern. -/

namespace SkyRegion

open Image Text

namespace Image

/-- The answers of an image have nothing to do with what it was asked before. -/
def IsSteady (image : Image) : Prop := ∀ before before' query, image.answer before query = image.answer before' query

/-- The reply about a position; among pixels it does not take an image. -/
def located (image : Image) : PositionMode → Position → Except Fault (Option (Number × Number))
  | .pixels, position => .ok (some (position.x.value, position.y.value))
  | .sky frame, position => image.answer [] (.toPixel frame position.x position.y)

end Image

/-- A token that is not excessive is read, or is a fault of the format. -/
theorem Token.quantity_cases [UnitLibrary] {latitude : Bool} {token : Text} (moderate : ¬IsExcessive latitude token)
    (shape : Text) (place : Unit) :
    (∃ quantity, Token.quantity shape place latitude token = .ok quantity) ∧ IsRead latitude token ∨
      (∃ complaint, Token.quantity shape place latitude token = .error (.complaint complaint) ∧ complaint.kind = .format) ∧
        ¬IsRead latitude token := by
  rw [← quantity_interrupts_iff shape place] at moderate
  rw [← quantity_ok_iff shape place]
  cases reading : Token.quantity shape place latitude token with
  | ok quantity => exact .inl ⟨⟨quantity, rfl⟩, quantity, rfl⟩
  | error setback =>
    rw [reading] at moderate
    have format := isFormat_of_quantity reading moderate
    cases setback with
    | complaint complaint =>
      refine .inr ⟨⟨complaint, rfl, format⟩, ?_⟩
      rintro ⟨_, ⟨⟩⟩
    | interruption interruption => exact format.elim

namespace Shape

def tokensOf (vertices : List (Text × Text)) : List Text := vertices.flatMap fun vertex => [vertex.1, vertex.2]

theorem length_tokensOf (vertices : List (Text × Text)) : (tokensOf vertices).length = 2 * vertices.length := by
  induction vertices with
  | nil => rfl
  | cons vertex rest ih =>
    rw [tokensOf, List.flatMap_cons, List.length_append, ← tokensOf, ih, List.length_cons]
    simp only [List.length_cons, List.length_nil]
    omega

variable [UnitLibrary]

/-- The position that two tokens make. -/
def readVertex (shape : Text) (mode : PositionMode) (vertex : Text × Text) : Except Setback Position := do
  return ⟨← Token.quantity shape mode.unit false vertex.1, ← Token.quantity shape mode.unit true vertex.2⟩

/-- Both tokens are quantities. -/
def IsReadVertex (vertex : Text × Text) : Prop := Token.IsRead false vertex.1 ∧ Token.IsRead true vertex.2

variable {shape : Text} {mode : PositionMode} {vertex : Text × Text} {vertices : List (Text × Text)}

theorem readVertex_eq_ok_iff {position : Position} : readVertex shape mode vertex = .ok position ↔
    Token.quantity shape mode.unit false vertex.1 = .ok position.x ∧
      Token.quantity shape mode.unit true vertex.2 = .ok position.y := by
  simp only [readVertex, bind_eq_ok_iff]
  constructor
  · rintro ⟨x, xRead, y, yRead, ⟨⟩⟩
    exact ⟨xRead, yRead⟩
  · rintro ⟨xRead, yRead⟩
    exact ⟨_, xRead, _, yRead, rfl⟩

/-- What a vertex is read as has nothing to do with the shape that it is read for. -/
theorem readVertex_ok_congr (shape other : Text) {position : Position} :
    readVertex shape mode vertex = .ok position ↔ readVertex other mode vertex = .ok position := by
  simp only [readVertex_eq_ok_iff]
  constructor
  · exact fun read => ⟨Token.quantity_ok_congr read.1 other, Token.quantity_ok_congr read.2 other⟩
  · exact fun read => ⟨Token.quantity_ok_congr read.1 shape, Token.quantity_ok_congr read.2 shape⟩

theorem readVertex_cases (shape : Text) (mode : PositionMode) (xModerate : ¬Token.IsExcessive false vertex.1)
    (yModerate : ¬Token.IsExcessive true vertex.2) :
    (∃ position, readVertex shape mode vertex = .ok position) ∧ IsReadVertex vertex ∨
      (∃ complaint, readVertex shape mode vertex = .error (.complaint complaint) ∧ complaint.kind = .format) ∧
        ¬IsReadVertex vertex := by
  rw [readVertex]
  rcases Token.quantity_cases xModerate shape mode.unit with ⟨⟨x, xReads⟩, xRead⟩ | ⟨⟨complaint, failed, format⟩, unread⟩
  · rcases Token.quantity_cases yModerate shape mode.unit with
      ⟨⟨y, yReads⟩, yRead⟩ | ⟨⟨complaint, failed, format⟩, unread⟩
    · rw [xReads, yReads]
      exact .inl ⟨⟨⟨x, y⟩, rfl⟩, xRead, yRead⟩
    · rw [xReads, failed]
      exact .inr ⟨⟨complaint, rfl, format⟩, fun read => unread read.2⟩
  · rw [failed]
    exact .inr ⟨⟨complaint, rfl, format⟩, fun read => unread read.1⟩

/-- The tokens of a polygon are read two by two. -/
theorem pairUp_quantities (shape : Text) (mode : PositionMode) (vertices : List (Text × Text)) :
    pairUp <$> quantities shape (fun _ => mode.unit) (· % 2 = 1) (tokensOf vertices) =
      vertices.mapM (readVertex shape mode) := by
  have fromEven (start : Nat) : (pairUp <$> ((tokensOf vertices).zipIdx (2 * start)).mapM fun item =>
      Token.quantity shape mode.unit (decide (item.2 % 2 = 1)) item.1) = vertices.mapM (readVertex shape mode) := by
    induction vertices generalizing start with
    | nil => rfl
    | cons vertex rest ih =>
      have even : decide (2 * start % 2 = 1) = false := by simp
      have odd : decide ((2 * start + 1) % 2 = 1) = true := by
        rw [decide_eq_true_iff]
        omega
      have split : tokensOf (vertex :: rest) = vertex.1 :: vertex.2 :: tokensOf rest := rfl
      have next : 2 * start + 1 + 1 = 2 * (start + 1) := by omega
      rw [List.mapM_cons, ← ih (start + 1), readVertex, split]
      simp only [List.zipIdx_cons, List.mapM_cons, even, odd, next, map_bind, bind_assoc, pure_bind, map_pure, pairUp,
        bind_map_left]
  exact fromEven 0

theorem readPolygon_vertices (three : 3 ≤ vertices.length) : readPolygon mode (tokensOf vertices) =
    .polygon <$> vertices.mapM (readVertex ShapeKeyword.polygon.name mode) := by
  have length := length_tokensOf vertices
  rw [readPolygon, if_neg (by omega), if_neg (by omega), ← pairUp_quantities]
  simp only [map_eq_pure_bind, bind_assoc, pure_bind]

theorem readPoint_vertex (unmarked : vertex.1 ≠ ShapeKeyword.point.name) :
    readPoint mode ShapeKeyword.point.name [vertex.1, vertex.2] =
      .point <$> readVertex ShapeKeyword.point.name mode vertex := by
  have tokens : pointTokens? ShapeKeyword.point.name [vertex.1, vertex.2] = some [vertex.1, vertex.2] := by
    simp [pointTokens?, unmarked]
  simp only [readPoint, tokens, quantities, readVertex, List.zipIdx_cons, List.zipIdx_nil, List.mapM_cons, List.mapM_nil,
    bind_assoc, pure_bind, map_bind, map_pure]
  rfl

end Shape

/-- The work comes to a result, whatever the image was asked before. -/
def Placing.Yields (work : Placing α) (image : Image) (result : Except Setback α) : Prop :=
  work.run.Ensures image (· = result)

namespace Placing.Yields

variable {image : Image}

theorem pure (value : α) : Yields (Pure.pure value) image (.ok value) := fun _ => rfl

theorem bind {work : Placing α} {next : α → Placing β} {result : Except Setback α} {rest : α → Except Setback β}
    (yields : Yields work image result) (further : ∀ value, result = .ok value → Yields (next value) image (rest value)) :
    Yields (work >>= next) image (result >>= rest) := by
  rw [Yields, ExceptT.run_bind]
  refine Dialogue.Ensures.bind yields ?_
  rintro result rfl
  cases result with
  | error setback => exact .pure rfl
  | ok value => exact further value rfl

theorem mapM {f : α → Placing β} {g : α → Except Setback β} (each : ∀ item, Yields (f item) image (g item))
    (items : List α) : Yields (items.mapM f) image (items.mapM g) := by
  induction items with
  | nil => exact .pure []
  | cons item rest ih =>
    rw [List.mapM_cons, List.mapM_cons]
    exact .bind (each item) fun value _ => .bind ih fun values _ => .pure (value :: values)

end Placing.Yields

namespace Shape

variable {image : Image} {mode : PositionMode} {vertex : Text × Text} {vertices : List (Text × Text)}

/-- The point that a position comes to; if there is none, the setback names the shape. -/
def settled (image : Image) (mode : PositionMode) (name : Text) (position : Position) : Except Setback Point :=
  placed name (image.located mode position)

theorem settled_eq_ok_iff {name : Text} {position : Position} {point : Point} :
    settled image mode name position = .ok point ↔ image.located mode position = .ok (some (point.x, point.y)) := by
  rw [settled]
  rcases image.located mode position with fault | _ | ⟨x, y⟩
  · exact iff_of_false nofun nofun
  · exact iff_of_false nofun nofun
  · obtain ⟨_, _⟩ := point
    simp [placed]

/-- A setback about a position is that it has no pixel, or it is the fault of the image. -/
theorem setback_of_settled {name : Text} {position : Position} {setback : Setback}
    (failed : settled image mode name position = .error setback) :
    setback = .complaint (.notPlaced name) ∨ ∃ fault, setback = .interruption (.image fault) ∧ image.Fails fault := by
  rw [settled] at failed
  cases mode with
  | pixels => cases failed
  | sky frame =>
    rw [located] at failed
    cases replied : image.answer [] (.toPixel frame position.x position.y) with
    | error fault =>
      rw [replied] at failed
      cases failed
      exact .inr ⟨fault, rfl, [], _, replied⟩
    | ok pixel? =>
      rw [replied] at failed
      cases pixel? with
      | none =>
        cases failed
        exact .inl rfl
      | some pixel => cases failed

theorem placePosition_yields (steady : image.IsSteady) (mode : PositionMode) (name : Text) (position : Position) :
    (placePosition mode name position).Yields image (settled image mode name position) := by
  cases mode with
  | pixels => exact .pure _
  | sky frame =>
    intro asked
    rw [placePosition_run, steady asked []]
    rfl

variable [UnitLibrary]

/-- The region of a polygon that is read and settled, vertex by vertex. -/
def polygonOf (image : Image) (mode : PositionMode) (fileId : Int) (vertices : List (Text × Text)) :
    Except Setback Region := do
  let positions ← vertices.mapM (readVertex ShapeKeyword.polygon.name mode)
  return ⟨.polygon, ← positions.mapM (settled image mode ShapeKeyword.polygon.name), 0, [], fileId⟩

theorem polygonOf_of_positions {fileId : Int} {positions : List Position}
    (reading : vertices.mapM (readVertex ShapeKeyword.polygon.name mode) = .ok positions) :
    polygonOf image mode fileId vertices =
      (⟨.polygon, ·, 0, [], fileId⟩) <$> positions.mapM (settled image mode ShapeKeyword.polygon.name) := by
  rw [polygonOf, reading, map_eq_pure_bind]
  rfl

def pointOf (image : Image) (mode : PositionMode) (fileId : Int) (vertex : Text × Text) : Except Setback Region := do
  let position ← readVertex ShapeKeyword.point.name mode vertex
  return ⟨.point, [← settled image mode ShapeKeyword.point.name position], 0, [], fileId⟩

/-- The vertex is read, and comes to a point. -/
def Lands (image : Image) (mode : PositionMode) (vertex : Text × Text) (point : Point) : Prop :=
  ∃ position, readVertex [] mode vertex = .ok position ∧ image.located mode position = .ok (some (point.x, point.y))

theorem pointOf_eq_ok_iff {fileId : Int} {part : Region} : pointOf image mode fileId vertex = .ok part ↔
    ∃ point, Lands image mode vertex point ∧ part = ⟨.point, [point], 0, [], fileId⟩ := by
  simp only [pointOf, bind_eq_ok_iff, Lands, settled_eq_ok_iff, readVertex_ok_congr ShapeKeyword.point.name []]
  constructor
  · rintro ⟨position, read, point, placed, ⟨⟩⟩
    exact ⟨point, ⟨position, read, placed⟩, rfl⟩
  · rintro ⟨point, ⟨position, read, placed⟩, rfl⟩
    exact ⟨position, read, point, placed, rfl⟩

theorem polygonOf_eq_ok_iff {fileId : Int} {region : Region} : polygonOf image mode fileId vertices = .ok region ↔
    ∃ points, List.Forall₂ (Lands image mode) vertices points ∧ region = ⟨.polygon, points, 0, [], fileId⟩ := by
  have lands (points : List Point) : List.Forall₂ (Lands image mode) vertices points ↔
      ∃ positions, vertices.mapM (readVertex ShapeKeyword.polygon.name mode) = .ok positions ∧
        positions.mapM (settled image mode ShapeKeyword.polygon.name) = .ok points := by
    simp only [mapM_eq_ok_iff, forall₂_comp, settled_eq_ok_iff, readVertex_ok_congr ShapeKeyword.polygon.name []]
    rfl
  simp only [polygonOf, bind_eq_ok_iff, lands]
  constructor
  · rintro ⟨positions, read, points, placed, ⟨⟩⟩
    exact ⟨points, ⟨positions, read, placed⟩, rfl⟩
  · rintro ⟨points, ⟨positions, read, placed⟩, rfl⟩
    exact ⟨positions, read, points, placed, rfl⟩

/-- A polygon consists of the points that its vertices come to. -/
theorem polygonOf_eq_ok_iff_pointOf {fileId : Int} {region : Region} : polygonOf image mode fileId vertices = .ok region ↔
    ∃ parts, vertices.mapM (pointOf image mode fileId) = .ok parts ∧
      region = ⟨.polygon, parts.flatMap (·.points), 0, [], fileId⟩ := by
  simp only [polygonOf_eq_ok_iff, mapM_eq_ok_iff, pointOf_eq_ok_iff, ← forall₂_comp]
  have singles (points : List Point) :
      List.Forall₂ (fun point part => part = (⟨.point, [point], 0, [], fileId⟩ : Region)) points
        (points.map fun point => ⟨.point, [point], 0, [], fileId⟩) := by
    rw [List.forall₂_map_right_iff, List.forall₂_same]
    exact fun _ _ => rfl
  constructor
  · rintro ⟨points, lands, rfl⟩
    exact ⟨_, ⟨points, lands, singles points⟩, by simp [List.flatMap_map]⟩
  · rintro ⟨parts, ⟨points, lands, made⟩, rfl⟩
    have unique : Relator.RightUnique fun (point : Point) part => part = (⟨.point, [point], 0, [], fileId⟩ : Region) :=
      fun _ _ _ same same' => same.trans same'.symm
    obtain rfl := List.right_unique_forall₂' unique made (singles points)
    exact ⟨points, lands, by simp [List.flatMap_map]⟩

section steady

variable (steady : image.IsSteady)
include steady

theorem readPlaced_polygon (three : 3 ≤ vertices.length) (mode : PositionMode) (fileId : Int) :
    (readPlaced mode .polygon ShapeKeyword.polygon.name (tokensOf vertices) [] fileId).Yields image
      (polygonOf image mode fileId vertices) := by
  rw [readPlaced, read, readPolygon_vertices three, polygonOf]
  cases reading : vertices.mapM (readVertex ShapeKeyword.polygon.name mode) with
  | error setback => exact fun _ => rfl
  | ok positions =>
    refine .bind (.mapM (placePosition_yields steady mode _) positions) fun points placed => ?_
    have count := (mapM_eq_ok_iff.mp reading).length_eq.trans (mapM_eq_ok_iff.mp placed).length_eq
    have fits : RegionKind.polygon.fits points.length = true := decide_eq_true (count ▸ three)
    simp only [Shape.kind, Region.check, fits, if_true]
    exact .pure _

theorem readPlaced_point (unmarked : vertex.1 ≠ ShapeKeyword.point.name) (mode : PositionMode) (fileId : Int) :
    (readPlaced mode .point ShapeKeyword.point.name [vertex.1, vertex.2] [] fileId).Yields image
      (pointOf image mode fileId vertex) := by
  rw [readPlaced, read, readPoint_vertex unmarked, pointOf]
  cases readVertex ShapeKeyword.point.name mode vertex with
  | error setback => exact fun _ => rfl
  | ok position =>
    have single : (point position).place mode [] fileId = placePosition mode ShapeKeyword.point.name position >>=
        fun point => pure ⟨.point, [point], 0, [], fileId⟩ := by
      simp only [place, placePoints, bind_assoc, pure_bind]
      rfl
    change ((point position).place mode [] fileId).Yields image _
    rw [single]
    exact .bind (placePosition_yields steady mode _ position) fun point _ => .pure _

end steady

end Shape

namespace Import

def pointLine (vertex : Text × Text) : Text := lineOf [ShapeKeyword.point.name, vertex.1, vertex.2]

def polygonLine (vertices : List (Text × Text)) : Text := lineOf (ShapeKeyword.polygon.name :: Shape.tokensOf vertices)

theorem added_eq_iff {state : ImportState} {number : Int} {keyword : ShapeKeyword} {result : Except Setback Region}
    {region : Region} : added state (reported number keyword result) = (.ok ⟨⟩, state.add ⟨[region], []⟩) ↔
      result = .ok region := by
  refine ⟨eq_ok_of_added, ?_⟩
  rintro rfl
  rfl

section

variable [UnitLibrary]

/-- Two tokens that can be the coordinates of a point, and that do not stop an import. -/
structure IsVertex (vertex : Text × Text) : Prop where
  x : IsArgument vertex.1
  y : IsArgument vertex.2
  unmarked : vertex.1 ≠ ShapeKeyword.point.name
  xModerate : ¬Token.IsExcessive false vertex.1
  yModerate : ¬Token.IsExcessive true vertex.2

instance (vertex : Text × Text) : Decidable (IsVertex vertex) :=
  decidable_of_iff (IsArgument vertex.1 ∧ IsArgument vertex.2 ∧ vertex.1 ≠ ShapeKeyword.point.name ∧
      ¬Token.IsExcessive false vertex.1 ∧ ¬Token.IsExcessive true vertex.2)
    ⟨fun ⟨x, y, unmarked, xModerate, yModerate⟩ => ⟨x, y, unmarked, xModerate, yModerate⟩,
      fun isVertex => ⟨isVertex.x, isVertex.y, isVertex.unmarked, isVertex.xModerate, isVertex.yModerate⟩⟩

section vertices

variable {image : Image} {state : ImportState} {mode : PositionMode} {vertex : Text × Text} {vertices : List (Text × Text)}

theorem IsVertex.plain (isVertex : IsVertex vertex) : ∀ token ∈ [vertex.1, vertex.2], IsArgument token :=
  List.forall_mem_cons.mpr ⟨isVertex.x, List.forall_mem_singleton.mpr isVertex.y⟩

theorem isTaken_pointLine (isVertex : IsVertex vertex) :
    IsTaken (pointLine vertex) .point ShapeKeyword.point.name [vertex.1, vertex.2] :=
  isTaken_keyword .point isVertex.plain (List.cons_ne_nil _ _) fun same => isVertex.unmarked (Option.some.inj same)

theorem isArgument_tokensOf (each : ∀ vertex ∈ vertices, IsVertex vertex) :
    ∀ token ∈ Shape.tokensOf vertices, IsArgument token := by
  intro token listed
  obtain ⟨vertex, member, inside⟩ := List.mem_flatMap.mp listed
  exact (each vertex member).plain token inside

theorem pointLine_run (steady : image.IsSteady) (reads : state.currentMode? = some mode) (isVertex : IsVertex vertex)
    (number : Int) (asked : List Query) : (((importLine number (pointLine vertex)).run.run state).run image asked).1 =
      added state (reported number .point (Shape.pointOf image mode state.fileId vertex)) := by
  rw [(isTaken_pointLine isVertex).importLine_run_run reads, pointLine, labelOf_keyword .point isVertex.plain,
    Shape.readPlaced_point steady isVertex.unmarked mode state.fileId asked]

variable (three : 3 ≤ vertices.length) (each : ∀ vertex ∈ vertices, IsVertex vertex)
include three each

theorem isTaken_polygonLine :
    IsTaken (polygonLine vertices) .polygon ShapeKeyword.polygon.name (Shape.tokensOf vertices) := by
  obtain ⟨first, rest, rfl⟩ := List.exists_cons_of_length_pos (Nat.zero_lt_of_lt three)
  have head : (Shape.tokensOf (first :: rest)).head? ≠ some ShapeKeyword.point.name :=
    fun same => (each first List.mem_cons_self).unmarked (Option.some.inj same)
  exact isTaken_keyword .polygon (isArgument_tokensOf each) (List.cons_ne_nil _ _) head

theorem polygonLine_run (steady : image.IsSteady) (reads : state.currentMode? = some mode) (number : Int)
    (asked : List Query) : (((importLine number (polygonLine vertices)).run.run state).run image asked).1 =
      added state (reported number .polygon (Shape.polygonOf image mode state.fileId vertices)) := by
  rw [(isTaken_polygonLine three each).importLine_run_run reads, polygonLine,
    labelOf_keyword .polygon (isArgument_tokensOf each),
    Shape.readPlaced_polygon steady three mode state.fileId asked]

/-- A polygon with a token that is no quantity is a fault of the format, and asks nothing. -/
theorem polygonLine_unread (reads : state.currentMode? = some mode)
    (unread : ¬∀ vertex ∈ vertices, Shape.IsReadVertex vertex) (number : Int) (image : Image) (asked : List Query) :
    ∃ issue, ((importLine number (polygonLine vertices)).run.run state).run image asked =
      ((.ok ⟨⟩, state.add ⟨[], [issue]⟩), asked) ∧ issue.kind = .format := by
  have cases vertex (listed : vertex ∈ vertices) := Shape.readVertex_cases ShapeKeyword.polygon.name mode
    (each vertex listed).xModerate (each vertex listed).yModerate
  have taken := isTaken_polygonLine three each
  cases reading : vertices.mapM (Shape.readVertex ShapeKeyword.polygon.name mode) with
  | ok positions =>
    refine absurd (fun vertex listed => ?_) unread
    obtain ⟨position, read⟩ := exists_mapM_eq_ok_iff.mp ⟨positions, reading⟩ vertex listed
    rcases cases vertex listed with ⟨_, read⟩ | ⟨⟨complaint, failed, _⟩, _⟩
    · exact read
    · cases read.symm.trans failed
  | error setback =>
    obtain ⟨vertex, listed, failed⟩ := exists_of_mapM_eq_error reading
    rcases cases vertex listed with ⟨⟨position, read⟩, _⟩ | ⟨⟨complaint, failed', format⟩, _⟩
    · cases read.symm.trans failed
    · obtain rfl := Except.error.inj (failed.symm.trans failed')
      have refused : Shape.read mode .polygon ShapeKeyword.polygon.name (Shape.tokensOf vertices) =
          .error (.complaint complaint) := by
        rw [Shape.read, Shape.readPolygon_vertices three, reading]
        rfl
      exact ⟨_, taken.importLine_of_unread reads refused number image asked, format⟩

/-- A polygon of quantities is imported, or is a fault of the conversion; or the image fails. -/
theorem polygonLine_read (steady : image.IsSteady) (reads : state.currentMode? = some mode)
    (read : ∀ vertex ∈ vertices, Shape.IsReadVertex vertex) (number : Int) (asked : List Query) :
    let outcome := (((importLine number (polygonLine vertices)).run.run state).run image asked).1
    (∃ region, outcome = (.ok ⟨⟩, state.add ⟨[region], []⟩)) ∨
    (∃ issue, outcome = (.ok ⟨⟩, state.add ⟨[], [issue]⟩) ∧ issue.kind = .conversion) ∨
    ∃ fault, outcome = (.error (.image fault), state) ∧ image.Fails fault := by
  have all : ∀ vertex ∈ vertices, ∃ position,
      Shape.readVertex ShapeKeyword.polygon.name mode vertex = .ok position := by
    intro vertex listed
    rcases Shape.readVertex_cases ShapeKeyword.polygon.name mode (each vertex listed).xModerate
      (each vertex listed).yModerate with ⟨reads, _⟩ | ⟨_, unread⟩
    · exact reads
    · exact absurd (read vertex listed) unread
  obtain ⟨positions, reading⟩ := exists_mapM_eq_ok_iff.mpr all
  intro outcome
  have ran : outcome = _ := polygonLine_run three each steady reads number asked
  rw [Shape.polygonOf_of_positions reading] at ran
  cases placing : positions.mapM (Shape.settled image mode ShapeKeyword.polygon.name) with
  | ok points =>
    rw [placing] at ran
    exact .inl ⟨_, ran⟩
  | error setback =>
    rw [placing] at ran
    obtain ⟨position, _, failed⟩ := exists_of_mapM_eq_error placing
    obtain rfl | ⟨fault, rfl, fails⟩ := Shape.setback_of_settled failed
    · exact .inr (.inl ⟨_, ran, rfl⟩)
    · exact .inr (.inr ⟨fault, ran, fails⟩)

end vertices

end

section

open CommonUnits

end

end Import
end SkyRegion
