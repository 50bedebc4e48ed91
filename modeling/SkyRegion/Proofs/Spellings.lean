import SkyRegion.Proofs.SpelledLine
import SkyRegion.Proofs.StoredTurn

/-! One shape, spelled in different ways. A circle is an ellipse with its radius written twice, and an angle after that
turns nothing; a word before the word for a point says nothing at all. -/

namespace SkyRegion

open Image Text

/-- The place of a token gives it its unit at most. -/
theorem Token.value_congr [UnitLibrary] {shape token : Text} {place place' : Unit} {latitude : Bool}
    {quantity quantity' : Quantity} (read : Token.quantity shape place latitude token = .ok quantity)
    (read' : Token.quantity shape place' latitude token = .ok quantity') : quantity.value = quantity'.value := by
  rw [quantity_eq] at read read'
  cases named : checked shape latitude token with
  | error complaint =>
    rw [named] at read
    cases read
  | ok text =>
    simp only [named] at read read'
    generalize Quantity.read text = result at read read'
    rcases result with fault | _ | known
    · cases read
    · cases read
    · cases read
      cases read'
      split <;> rfl

namespace Shape

variable {image : Image} {mode : PositionMode}

/-- What becomes of a shape. It is not read; or it makes a region of its kind and turn, is complained about, or comes upon a
fault of the image. -/
inductive ComesTo (image : Image) (reading : Except Setback Shape) : Except Setback Region → Prop where
  | unread {setback : Setback} (failed : reading = .error setback) : ComesTo image reading (.error setback)
  | region {shape : Shape} {region : Region} (accepted : reading = .ok shape) (kind : region.kind = shape.kind)
      (rotation : region.rotation = shape.rotation) : ComesTo image reading (.ok region)
  | unplaced (complaint : Complaint) : ComesTo image reading (.error (.complaint complaint))
  | fault {fault : Fault} (fails : image.Fails fault) : ComesTo image reading (.error (.interruption (.image fault)))

/-- A complaint, or a fault of the image. -/
def IsOfPlacing (image : Image) : Setback → Prop
  | .complaint _ => True
  | .interruption interruption => ∃ fault, interruption = .image fault ∧ image.Fails fault

theorem placePosition_leads_isOfPlacing (image : Image) (mode : PositionMode) (name : Text) (position : Position) :
    (placePosition mode name position).Leads image (fun _ => True) (IsOfPlacing image) := by
  cases mode with
  | pixels => exact .pure trivial
  | sky frame =>
    intro asked
    rw [placePosition_run]
    cases replied : image.answer asked (.toPixel frame position.x position.y) with
    | error fault => exact ⟨fault, rfl, asked, _, replied⟩
    | ok pixel? => cases pixel? <;> trivial

theorem placeLength_leads_isOfPlacing (image : Image) (name : Text) (length : Quantity) (axis : Axis) :
    (placeLength name length axis).Leads image (fun _ => True) (IsOfPlacing image) := by
  intro asked
  rw [placeLength_run]
  cases replied : image.answer asked (.toPixelLength length axis) with
  | ok pixels => trivial
  | error fault =>
    change IsOfPlacing image (if fault.isRefusal then _ else _)
    split
    · trivial
    · exact ⟨fault, rfl, asked, _, replied⟩

variable [UnitLibrary]

theorem readPlaced_comes (mode : PositionMode) (keyword : ShapeKeyword) (word : Text) (arguments : List Text) (label : Text)
    (fileId : Int) (image : Image) : (readPlaced mode keyword word arguments label fileId).run.Ensures image
      (ComesTo image (read mode keyword word arguments)) := by
  rw [readPlaced]
  cases reading : read mode keyword word arguments with
  | error setback => exact .pure (.unread rfl)
  | ok shape =>
    have positions := placePosition_leads_isOfPlacing image mode shape.name
    have lengths := placeLength_leads_isOfPlacing image shape.name
    have leads := place_leads mode positions lengths rfl (isComplete_of_read reading) label fileId
    refine leads.ensures ?_ ?_
    · rintro _ ⟨points, _, rfl⟩
      exact .region rfl rfl rfl
    · rintro (complaint | interruption) holds
      · exact .unplaced complaint
      · obtain ⟨fault, rfl, fails⟩ := holds
        exact .fault fails

/-- A word before the word for a point takes no part in it. -/
theorem readPoint_marked {arguments : List Text} (other : arguments.head? ≠ some ShapeKeyword.point.name)
    (mode : PositionMode) (word : Text) : readPoint mode word (ShapeKeyword.point.name :: arguments) =
      readPoint mode ShapeKeyword.point.name arguments := by
  have same : pointTokens? word (ShapeKeyword.point.name :: arguments) = pointTokens? ShapeKeyword.point.name arguments := by
    cases arguments with
    | nil => rfl
    | cons first rest =>
      have differs : first ≠ ShapeKeyword.point.name := fun same => other (congrArg some same)
      simp [pointTokens?, differs]
  rw [readPoint, readPoint, same]

theorem kind_of_readPoint {word : Text} {arguments : List Text} {shape : Shape}
    (accepted : readPoint mode word arguments = .ok shape) : shape.kind = .point := by
  obtain ⟨values, _, made⟩ := (@isReadFrom_of_read mode .point word arguments _ shape accepted).2.2
  cases made
  rfl

theorem rotation_of_readEllipse {x y radius : Text} {shape : Shape}
    (accepted : readEllipse mode [x, y, radius, radius] = .ok shape) : shape.rotation = 0 := by
  obtain ⟨values, _, made⟩ := (@isReadFrom_of_read mode .ellipse [] _ _ shape accepted).2.2
  cases made
  exact if_pos rfl

/-- An angle after radii that are written alike turns nothing. -/
theorem exists_read_turned {word x y radius turn : Text} (angle : Token.IsAngle turn) {shape : Shape}
    (accepted : read mode .ellipse word [x, y, radius, radius] = .ok shape) :
    ∃ turned, read mode .ellipse word [x, y, radius, radius, turn] = .ok turned ∧
      ∀ label fileId, turned.place mode label fileId = shape.place mode label fileId := by
  obtain ⟨_, readable, values, means, made⟩ := isReadFrom_of_read accepted
  have last : Token.IsRead false turn := by
    obtain ⟨quantity, _, read, _⟩ := angle
    exact (Token.quantity_ok_iff [] .degree false turn).mp ⟨quantity, read⟩
  have tokens : ∀ reading ∈ readings .ellipse word [x, y, radius, radius] ++ [(turn, false)],
      Token.IsRead reading.2 reading.1 :=
    List.forall_mem_append.mpr ⟨readable.tokens, List.forall_mem_singleton.mpr last⟩
  have turns : ∀ token ∈ [x, y, radius, radius, turn][4]?, Token.IsAngle token := by
    rintro token ⟨⟩
    exact angle
  have count : HasCount .ellipse word [x, y, radius, radius, turn] := .inr rfl
  obtain ⟨turned, accepted', values', means', made'⟩ := exists_read mode count ⟨tokens, fun _ => turns⟩
  refine ⟨turned, accepted', fun label fileId => ?_⟩
  cases made
  cases made'
  obtain _ | ⟨xRead, _ | ⟨yRead, _ | ⟨widthRead, _ | ⟨heightRead, _⟩⟩⟩⟩ := means
  obtain _ | ⟨xRead', _ | ⟨yRead', _ | ⟨widthRead', _ | ⟨heightRead', _⟩⟩⟩⟩ := means'
  cases mode with
  | pixels =>
    -- The height takes another unit from its place, but among pixels only its value is used.
    simp only [place, placePoints, placeCentered, placePosition, placeExtent, Shape.kind, Shape.rotation,
      Token.value_congr xRead xRead', Token.value_congr yRead yRead', Token.value_congr widthRead widthRead',
      Token.value_congr heightRead heightRead', List.getElem?_cons_succ, List.getElem?_cons_zero, if_true]
  | sky frame =>
    obtain rfl := Token.means_rightUnique xRead xRead'
    obtain rfl := Token.means_rightUnique yRead yRead'
    obtain rfl := Token.means_rightUnique widthRead widthRead'
    obtain rfl := Token.means_rightUnique heightRead heightRead'
    simp only [List.getElem?_cons_succ, List.getElem?_cons_zero, if_true]

end Shape

namespace Import

variable {image : Image} {state : ImportState} {line line' word word' : Text} {keyword : ShapeKeyword}
  {arguments arguments' : List Text} {mode : PositionMode}

/-- Lines that are read alike under one keyword are imported alike. -/
theorem IsTaken.importLine_congr [UnitLibrary] (taken : IsTaken line keyword word arguments)
    (taken' : IsTaken line' keyword word' arguments') (labels : labelOf line = labelOf line')
    (same : ∀ mode, Shape.read mode keyword word arguments = Shape.read mode keyword word' arguments') (state : ImportState)
    (number : Int) : (importLine number line).run.run state = (importLine number line').run.run state := by
  cases reads : state.currentMode? with
  | none => rw [taken.importLine_passed reads, taken'.importLine_passed reads]
  | some mode => rw [taken.importLine_run reads, taken'.importLine_run reads, labels, same]

theorem isTaken_point {arguments : List Text} (plain : ∀ token ∈ arguments, IsArgument token)
    (other : arguments.head? ≠ some ShapeKeyword.point.name) :
    IsTaken (lineOf (ShapeKeyword.point.name :: arguments)) .point ShapeKeyword.point.name arguments := by
  cases arguments with
  | nil => exact ⟨by decide +kernel, ⟨ShapeKeyword.point.name, by decide +kernel, rfl⟩, by decide⟩
  | cons first rest => exact isTaken_keyword .point plain (List.cons_ne_nil _ _) other

theorem isTaken_marked {word : Text} {arguments : List Text} (plain : ∀ token ∈ word :: arguments, IsArgument token)
    (included : word.head? ≠ some '-') : IsTaken (lineOf (word :: ShapeKeyword.point.name :: arguments)) .point
      (withoutSign word) (ShapeKeyword.point.name :: arguments) := by
  obtain ⟨marker, plain⟩ := List.forall_mem_cons.mp plain
  have spelled := List.forall_mem_cons.mpr ⟨marker, isArgument_keyword .point plain⟩
  exact isTaken_lineOf spelled included (List.cons_ne_nil _ _)
    (by simp [ShapeKeyword.ofLine?, ShapeKeyword.all, ShapeKeyword.accepts])

/-- A word before the word for a point changes nothing, even if it is the keyword of another shape: the image is asked the
same, and the line comes to the same. Unless shapes are passed over that is a point, or an issue about one; or the image
fails, or a token is excessive. -/
theorem importLine_marked_point [UnitLibrary] {word : Text} {arguments : List Text}
    (plain : ∀ token ∈ word :: arguments, IsArgument token)
    (included : word.head? ≠ some '-') (other : arguments.head? ≠ some ShapeKeyword.point.name) (state : ImportState)
    (number : Int) :
    let run := fun tokens => (importLine number (lineOf tokens)).run.run state
    let point := ShapeKeyword.point.name :: arguments
    run (word :: point) = run point ∧ (state.currentMode?.isSome = true → ∀ image asked,
      let outcome := ((run point).run image asked).1
      (∃ region, outcome = (.ok ⟨⟩, state.add ⟨[region], []⟩) ∧ region.kind = .point) ∨
      (∃ kind message, outcome = (.ok ⟨⟩, state.add ⟨[], [⟨number, ShapeKeyword.point.name, kind, message⟩]⟩)) ∨
      ∃ interruption, outcome = (.error interruption, state) ∧
        ((∃ fault, interruption = .image fault ∧ image.Fails fault) ∨
          ReachesExcess (Shape.readings .point ShapeKeyword.point.name arguments))) := by
  intro run point
  obtain ⟨marker, further⟩ := List.forall_mem_cons.mp plain
  have taken := isTaken_point further other
  have labels : labelOf (lineOf (word :: point)) = labelOf (lineOf point) := by
    have spelled := isArgument_keyword .point further
    rw [labelOf_lineOf (List.forall_mem_cons.mpr ⟨marker, spelled⟩), labelOf_lineOf spelled]
  refine ⟨(isTaken_marked plain included).importLine_congr taken labels
    (fun mode => Shape.readPoint_marked other mode (withoutSign word)) state number, fun present image asked => ?_⟩
  obtain ⟨mode, reads⟩ := Option.isSome_iff_exists.mp present
  have ran := taken.importLine_run_run reads number image asked
  have comes := Shape.readPlaced_comes mode .point ShapeKeyword.point.name arguments (labelOf (lineOf point)) state.fileId
    image asked
  generalize (Shape.readPlaced _ _ _ _ _ _).run.run image asked = placed at ran comes
  obtain ⟨result, log⟩ := placed
  change ((run point).run image asked) = _ at ran
  rw [ran]
  cases comes with
  | @unread setback failed =>
    cases setback with
    | complaint complaint => exact .inr (.inl ⟨_, _, rfl⟩)
    | interruption interruption =>
      refine .inr (.inr ⟨interruption, rfl, .inr ?_⟩)
      rw [← Shape.read_interrupts_iff mode, failed]
      trivial
  | region accepted kind _ => exact .inl ⟨_, rfl, kind.trans (Shape.kind_of_readPoint accepted)⟩
  | unplaced complaint => exact .inr (.inl ⟨_, _, rfl⟩)
  | @fault fault fails => exact .inr (.inr ⟨_, rfl, .inl ⟨fault, rfl, fails⟩⟩)

section

open CommonUnits

/-- A circle point is a point. -/
theorem importLine_marked_point_of_circle :
    let state : ImportState := { fileId := 0 }
    let arguments := ["1".toList, "2".toList]
    let line := lineOf ("circle".toList :: ShapeKeyword.point.name :: arguments)
    (∀ token ∈ "circle".toList :: arguments, IsArgument token) ∧ "circle".toList.head? ≠ some '-' ∧
      arguments.head? ≠ some ShapeKeyword.point.name ∧ state.currentMode?.isSome = true ∧
      line = "circle point 1 2".toList ∧ ((importLine 1 line).run.run state).run plane [] =
        ((.ok ⟨⟩, state.add ⟨[⟨.point, [⟨1, 2⟩], 0, [], 0⟩], []⟩), []) := by
  intro state arguments line
  have plain : ∀ token ∈ "circle".toList :: arguments, IsArgument token := by decide +kernel
  have included : "circle".toList.head? ≠ some '-' := by decide
  have other : arguments.head? ≠ some ShapeKeyword.point.name := by decide
  have bare : ((importLine 1 (lineOf (ShapeKeyword.point.name :: arguments))).run.run state).run plane [] =
      ((.ok ⟨⟩, state.add ⟨[⟨.point, [⟨1, 2⟩], 0, [], 0⟩], []⟩), []) := by decide +kernel
  refine ⟨plain, included, other, rfl, by decide +kernel, ?_⟩
  rw [← bare]
  exact congrArg (·.run plane []) (importLine_marked_point plain included other state 1).1

end

/-- Outcomes of two lines under keywords of their own: one region without a turn, an issue each that only the name of the
shape is different in, or a fault of the image. -/
inductive AreAlike (image : Image) (state : ImportState) (number : Int) (name name' : Text) :
    Except Interruption PUnit.{1} × ImportState → Except Interruption PUnit.{1} × ImportState → Prop where
  | region {region : Region} (unturned : region.rotation = 0) :
    AreAlike image state number name name' (.ok ⟨⟩, state.add ⟨[region], []⟩) (.ok ⟨⟩, state.add ⟨[region], []⟩)
  | issue {kind : IssueKind} {message : Text} : AreAlike image state number name name'
      (.ok ⟨⟩, state.add ⟨[], [⟨number, name, kind, message⟩]⟩) (.ok ⟨⟩, state.add ⟨[], [⟨number, name', kind, message⟩]⟩)
  | fault {fault : Fault} (fails : image.Fails fault) :
    AreAlike image state number name name' (.error (.image fault), state) (.error (.image fault), state)

section circle

variable {x y radius turn : Text} {further : List Text}

variable [UnitLibrary]

theorem IsTaken.areAlike (round : IsTaken line .circle word (x :: y :: radius :: further))
    (long : IsTaken line' .ellipse word' [x, y, radius, radius]) (labels : labelOf line = labelOf line')
    (moderate : ∀ reading ∈ [(x, false), (y, true), (radius, false)], ¬Token.IsExcessive reading.2 reading.1)
    (reads : state.currentMode? = some mode) (number : Int) (image : Image) (asked : List Query) :
    let circle := ((importLine number line).run.run state).run image asked
    let ellipse := ((importLine number line').run.run state).run image asked
    circle.2 = ellipse.2 ∧
      AreAlike image state number ShapeKeyword.circle.name ShapeKeyword.ellipse.name circle.1 ellipse.1 := by
  have four : ∀ reading ∈ [(x, false), (y, true), (radius, false), (radius, false)],
      ¬Token.IsExcessive reading.2 reading.1 := by
    simp only [List.forall_mem_cons] at moderate ⊢
    exact ⟨moderate.1, moderate.2.1, moderate.2.2.1, moderate.2.2.1, List.forall_mem_nil _⟩
  have safe : ¬ReachesExcess (Shape.readings .ellipse word' [x, y, radius, radius]) := not_reachesExcess_of_forall four
  rw [← Shape.read_interrupts_iff mode] at safe
  have same : Shape.readPlaced mode .circle word (x :: y :: radius :: further) (labelOf line) state.fileId =
      Shape.readPlaced mode .ellipse word' [x, y, radius, radius] (labelOf line') state.fileId := by
    rw [labels]
    rfl
  have comes := Shape.readPlaced_comes mode .ellipse word' [x, y, radius, radius] (labelOf line') state.fileId image asked
  rw [round.importLine_run_run reads, long.importLine_run_run reads, same]
  refine ⟨rfl, ?_⟩
  generalize ((Shape.readPlaced _ _ _ _ _ _).run.run image asked).1 = result at comes ⊢
  cases comes with
  | @unread setback failed =>
    cases setback with
    | complaint complaint => exact .issue
    | interruption interruption =>
      rw [failed] at safe
      exact absurd trivial safe
  | region accepted _ rotation => exact .region (rotation.trans (Shape.rotation_of_readEllipse accepted))
  | unplaced complaint => exact .issue
  | fault fails => exact .fault fails

theorem IsTaken.importLine_turned (long : IsTaken line .ellipse word [x, y, radius, radius])
    (turned : IsTaken line' .ellipse word' [x, y, radius, radius, turn]) (labels : labelOf line' = labelOf line)
    (angle : Token.IsAngle turn) {image : Image} {asked : List Query} {number : Int} {region : Region}
    (adds : (((importLine number line).run.run state).run image asked).1 = (.ok ⟨⟩, state.add ⟨[region], []⟩)) :
    ((importLine number line').run.run state).run image asked = ((importLine number line).run.run state).run image asked := by
  obtain ⟨mode, shape, reads, accepted, _⟩ := long.exists_shape adds
  obtain ⟨shape', accepted', same⟩ := Shape.exists_read_turned angle accepted
  rw [turned.importLine_of_read reads accepted', long.importLine_of_read reads accepted, labels, same]

/-- A circle comes to the same as the ellipse with its radius written twice, by the same questions: both give the same
region, without a turn, or an issue each of one kind and message, unless the image fails; and both do nothing while shapes
are passed over. Where the ellipse gives a region, an angle after it makes no difference. -/
theorem importLine_circle_ellipse (plain : ∀ token ∈ x :: y :: radius :: further, IsArgument token)
    (unmarked : x ≠ ShapeKeyword.point.name)
    (moderate : ∀ reading ∈ [(x, false), (y, true), (radius, false)], ¬Token.IsExcessive reading.2 reading.1)
    (image : Image) (state : ImportState) (number : Int) (asked : List Query) :
    let run := fun (keyword : ShapeKeyword) arguments =>
      ((importLine number (lineOf (keyword.name :: arguments))).run.run state).run image asked
    let circle := run .circle (x :: y :: radius :: further)
    let ellipse := run .ellipse [x, y, radius, radius]
    circle.2 = ellipse.2 ∧
    (state.currentMode? = none → circle.1 = (.ok ⟨⟩, state) ∧ ellipse.1 = (.ok ⟨⟩, state)) ∧
    (state.currentMode?.isSome = true →
      AreAlike image state number ShapeKeyword.circle.name ShapeKeyword.ellipse.name circle.1 ellipse.1) ∧
    ∀ region, ellipse.1 = (.ok ⟨⟩, state.add ⟨[region], []⟩) → ∀ turn, IsArgument turn → Token.IsAngle turn →
      run .ellipse [x, y, radius, radius, turn] = ellipse := by
  intro run circle ellipse
  have head {rest : List Text} : (x :: rest).head? ≠ some ShapeKeyword.point.name :=
    fun same => unmarked (Option.some.inj same)
  have four : ∀ token ∈ [x, y, radius, radius], IsArgument token := by
    simp only [List.forall_mem_cons] at plain ⊢
    exact ⟨plain.1, plain.2.1, plain.2.2.1, plain.2.2.1, List.forall_mem_nil _⟩
  have round := isTaken_keyword .circle plain (List.cons_ne_nil _ _) head
  have long := isTaken_keyword .ellipse four (List.cons_ne_nil _ _) head
  have labels := (labelOf_keyword .circle plain).trans (labelOf_keyword .ellipse four).symm
  have alike {mode : PositionMode} (reads : state.currentMode? = some mode) :=
    round.areAlike long labels moderate reads number image asked
  refine ⟨?_, fun passed => ?_, fun present => ?_, fun region adds turn single angle => ?_⟩
  · cases reads : state.currentMode? with
    | none => simp only [circle, ellipse, run, round.importLine_passed reads, long.importLine_passed reads]
    | some mode => exact (alike reads).1
  · simp only [circle, ellipse, run, round.importLine_passed passed, long.importLine_passed passed]
    exact ⟨rfl, rfl⟩
  · obtain ⟨mode, reads⟩ := Option.isSome_iff_exists.mp present
    exact (alike reads).2
  · have five : ∀ token ∈ [x, y, radius, radius] ++ [turn], IsArgument token :=
      List.forall_mem_append.mpr ⟨four, List.forall_mem_singleton.mpr single⟩
    have turned := isTaken_keyword .ellipse five (List.cons_ne_nil _ _) head
    have labels := (labelOf_keyword .ellipse five).trans (labelOf_keyword .ellipse four).symm
    exact long.importLine_turned turned labels angle adds

end circle

section

open CommonUnits

/-- A circle on the sky, with an argument too many, and the ellipse with an angle. -/
theorem importLine_circle_ellipse_of_threes :
    let position := ["1".toList, "2".toList]
    let state := declaredJ2000
    let run := fun (keyword : ShapeKeyword) arguments =>
      ((importLine 1 (lineOf (keyword.name :: arguments))).run.run state).run plane []
    let circle := run .circle (position ++ ["3".toList, "4".toList])
    let ellipse := run .ellipse (position ++ ["3".toList, "3".toList])
    (∀ token ∈ position ++ ["3".toList, "4".toList], IsArgument token) ∧ "1".toList ≠ ShapeKeyword.point.name ∧
      (∀ reading ∈ [("1".toList, false), ("2".toList, true), ("3".toList, false)],
        ¬Token.IsExcessive reading.2 reading.1) ∧ state.currentMode?.isSome = true ∧
      ellipse.1 = (.ok ⟨⟩, state.add ⟨[⟨.ellipse, [⟨1, 2⟩, ⟨3, 3⟩], 0, [], 0⟩], []⟩) ∧ circle.2 = ellipse.2 ∧
      AreAlike plane state 1 ShapeKeyword.circle.name ShapeKeyword.ellipse.name circle.1 ellipse.1 ∧
      IsArgument "30".toList ∧ Token.IsAngle "30".toList ∧
      run .ellipse (position ++ ["3".toList, "3".toList, "30".toList]) = ellipse := by
  intro position state run circle ellipse
  have plain : ∀ token ∈ position ++ ["3".toList, "4".toList], IsArgument token := by decide +kernel
  have unmarked : "1".toList ≠ ShapeKeyword.point.name := by decide
  have moderate : ∀ reading ∈ [("1".toList, false), ("2".toList, true), ("3".toList, false)],
      ¬Token.IsExcessive reading.2 reading.1 := by decide +kernel
  have present : state.currentMode?.isSome = true := rfl
  have imports : ellipse.1 = (.ok ⟨⟩, state.add ⟨[⟨.ellipse, [⟨1, 2⟩, ⟨3, 3⟩], 0, [], 0⟩], []⟩) := by decide +kernel
  have angle : Token.IsAngle "30".toList := ⟨⟨30, .degree⟩, 30, by decide +kernel, rfl⟩
  have single : IsArgument "30".toList := by decide +kernel
  obtain ⟨log, _, alike, turned⟩ := importLine_circle_ellipse plain unmarked moderate plane state 1 []
  exact ⟨plain, unmarked, moderate, present, imports, log, alike present, single, angle,
    turned _ imports _ single angle⟩

/-- After the declaration of a frame that is not supported a circle comes to no region and to no issue. -/
theorem importLine_circle_of_passed_over :
    let issue : Issue := ⟨1, "wcs".toList, .frame, "coord sys wcs not supported.".toList⟩
    let state : ImportState :=
      { fileId := 0, pixelMode := false, frame := .unsupported, accepting := false, issues := [issue] }
    let arguments := ["1".toList, "2".toList, "3".toList]
    let circle := ((importLine 2 (lineOf ("circle".toList :: arguments))).run.run state).run plane []
    (∀ token ∈ arguments, IsArgument token) ∧ "1".toList ≠ ShapeKeyword.point.name ∧
      (∀ token ∈ arguments, ∀ latitude, ¬Token.IsExcessive latitude token) ∧
      ((importLine 1 "wcs".toList).run.run { fileId := 0 }).run plane [] = ((.ok ⟨⟩, state), []) ∧
      (¬∃ region, circle.1 = (.ok ⟨⟩, state.add ⟨[region], []⟩)) ∧ ¬∃ issue, circle.1 = (.ok ⟨⟩, state.add ⟨[], [issue]⟩) := by
  intro issue state arguments circle
  have passed : circle = ((.ok ⟨⟩, state), []) := by decide +kernel
  refine ⟨by decide +kernel, by decide, by decide +kernel, by decide +kernel, ?_, ?_⟩
  · rintro ⟨region, adds⟩
    rw [passed] at adds
    have same : state.regions = state.regions ++ [region] := congrArg (·.2.regions) adds
    simp at same
  · rintro ⟨issue, adds⟩
    rw [passed] at adds
    have same : state.issues = state.issues ++ [issue] := congrArg (·.2.issues) adds
    simp at same

end

end Import
end SkyRegion
