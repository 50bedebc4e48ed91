import SkyRegion.Proofs.Returning

/-! The stages of reading a shape. The count of the arguments is judged before any of them is read; then each token is
read that the shape needs, and of an ellipse or a box the angle is converted. What is read is the shape that the
quantities of its tokens make. -/

namespace SkyRegion

open Text

/-- A complaint about a token that is no quantity. -/
def Setback.IsFormat : Setback → Prop
  | .complaint cause => cause.kind = .format
  | .interruption _ => False

namespace Token

theorem isFormat_of_nameUnit {shape token : Text} {complaint : Complaint} (failed : nameUnit shape token = .error complaint) :
    complaint.kind = .format := by
  rw [nameUnit] at failed
  split at failed
  · cases failed
    rfl
  · cases failed
  · split at failed <;> cases failed
    rfl
  · split at failed <;> cases failed
    rfl

variable [UnitLibrary]

/-- What a token of known latitude is read as, at its place among the others. -/
def Means (place : Nat → Unit) (reading : (Text × Bool) × Nat) (quantity : Quantity) : Prop :=
  Token.quantity [] (place reading.2) reading.1.2 reading.1.1 = .ok quantity

instance (place : Nat → Unit) (reading : (Text × Bool) × Nat) (quantity : Quantity) :
    Decidable (Means place reading quantity) := by
  unfold Means
  infer_instance

theorem means_rightUnique {place : Nat → Unit} : Relator.RightUnique (Means place) := by
  intro reading first second read read'
  exact Except.ok.inj (read.symm.trans read')

/-- The token is an angle; a bare number counts degrees. -/
def IsAngle (token : Text) : Prop :=
  ∃ quantity degrees, Token.quantity [] .degree false token = .ok quantity ∧ quantity.valueIn? .degree = some degrees

/-- A token that is not read is complained about, or stops the import. -/
theorem isFormat_of_quantity {shape token : Text} {place : Unit} {latitude : Bool} {setback : Setback}
    (failed : Token.quantity shape place latitude token = .error setback) (continues : ¬setback.IsInterruption) :
    setback.IsFormat := by
  rw [quantity_eq, checked] at failed
  cases named : nameUnit shape token with
  | error complaint =>
    rw [named] at failed
    cases failed
    exact isFormat_of_nameUnit named
  | ok text =>
    rw [named] at failed
    simp only [Except.map] at failed
    split at failed
    · cases failed
      exact absurd trivial continues
    · cases failed
      exact rfl
    · cases failed

/-- What a token is read as has nothing to do with the shape that it is read for. -/
theorem quantity_ok_congr {shape token : Text} {place : Unit} {latitude : Bool} {quantity : Quantity}
    (read : Token.quantity shape place latitude token = .ok quantity) (other : Text) :
    Token.quantity other place latitude token = .ok quantity := by
  have same : (checked shape latitude token).toOption = (checked other latitude token).toOption := by
    rw [checked_toOption, checked_toOption]
  rw [quantity_eq] at read ⊢
  cases named : checked shape latitude token with
  | error complaint =>
    rw [named] at read
    cases read
  | ok text =>
    rw [named] at read same
    cases named' : checked other latitude token with
    | error complaint =>
      rw [named'] at same
      cases same
    | ok text' =>
      rw [named'] at same
      cases same
      simp only at read ⊢
      split at read
      · cases read
      · cases read
      · exact read

end Token

namespace Shape

/-- The arguments are as many as a keyword takes. A point needs the word for it, before the arguments or as the first of
them, and two tokens after that word. Some keywords are not imported, whatever their arguments are. -/
def HasCount (keyword : ShapeKeyword) (word : Text) (arguments : List Text) : Prop :=
  match keyword with
  | .point =>
    if arguments.head? = some ShapeKeyword.point.name then 3 ≤ arguments.length
    else word = ShapeKeyword.point.name ∧ 2 ≤ arguments.length
  | .circle => 3 ≤ arguments.length
  | .ellipse => arguments.length = 4 ∨ arguments.length = 5
  | .box => arguments.length = 4 ∨ arguments.length = 5
  | .polygon => arguments.length % 2 = 0 ∧ 6 ≤ arguments.length
  | _ => False

instance (keyword : ShapeKeyword) (word : Text) (arguments : List Text) : Decidable (HasCount keyword word arguments) := by
  unfold HasCount
  split <;> infer_instance

/-- The tokens of a point, if there are as many as it takes. -/
theorem pointTokens?_eq (word : Text) (arguments : List Text) : pointTokens? word arguments =
    if HasCount .point word arguments
    then some (if arguments.head? = some ShapeKeyword.point.name then arguments.tail else arguments) else none := by
  cases arguments with
  | nil => simp [pointTokens?, HasCount]
  | cons first rest =>
    by_cases marked : first = ShapeKeyword.point.name
    · simp [pointTokens?, HasCount, marked, Option.filter_some]
    · by_cases bare : word = ShapeKeyword.point.name
      · simp [pointTokens?, HasCount, marked, bare, Option.filter_some]
      · simp [pointTokens?, HasCount, marked, bare]

theorem two_le_of_pointTokens? {word : Text} {arguments tokens : List Text}
    (found : pointTokens? word arguments = some tokens) : 2 ≤ tokens.length := by
  unfold pointTokens? at found
  rw [Option.filter_eq_some_iff] at found
  exact of_decide_eq_true found.2

theorem exists_centered {arguments : List Text} (count : arguments.length = 4 ∨ arguments.length = 5) :
    ∃ x y width height further, arguments = x :: y :: width :: height :: further ∧
      (further = [] ∨ ∃ turn, further = [turn]) := by
  match arguments, count with
  | [x, y, width, height], _ => exact ⟨x, y, width, height, [], rfl, .inl rfl⟩
  | [x, y, width, height, turn], _ => exact ⟨x, y, width, height, [turn], rfl, .inr ⟨turn, rfl⟩⟩

theorem kind_of_checkCentered {shape : Text} {count : Nat} {complaint : Complaint}
    (failed : checkCentered shape count = .error complaint) :
    complaint.kind = if 5 < count then .unsupported else .syntactic := by
  rw [checkCentered] at failed
  split at failed
  · cases failed
  · split at failed
    · cases failed
      exact (if_pos ‹_›).symm
    · cases failed
      exact (if_neg ‹_›).symm

theorem flatMap_pairUp : ∀ {values : List Quantity}, values.length % 2 = 0 →
    (pairUp values).flatMap (fun vertex => [vertex.x, vertex.y]) = values
  | [], _ => rfl
  | [_], odd => by simp at odd
  | x :: y :: rest, even => by
    have further : rest.length % 2 = 0 := by
      rw [List.length_cons, List.length_cons] at even
      omega
    rw [pairUp, List.flatMap_cons, flatMap_pairUp further]
    rfl

/-- Reading ends at the count, at a token, or with what is made of the tokens. -/
inductive Staged (counted readable : Prop) (miscount : IssueKind) (made : α → Prop) : Except Setback α → Prop where
  | miscounted {complaint : Complaint} (count : ¬counted) (kind : complaint.kind = miscount) :
    Staged counted readable miscount made (.error (.complaint complaint))
  | refused {complaint : Complaint} (count : counted) (unreadable : ¬readable) (kind : complaint.kind = .format) :
    Staged counted readable miscount made (.error (.complaint complaint))
  | made {value : α} (count : counted) (read : readable) (holds : made value) :
    Staged counted readable miscount made (.ok value)

/-- Whatever is made further of what was read, the stages stay. -/
theorem Staged.map {counted readable readable' : Prop} {miscount : IssueKind} {made : α → Prop} {made' : β → Prop}
    {result : Except Setback α} (staged : Staged counted readable miscount made result) {f : α → β}
    (same : counted → (readable ↔ readable')) (holds : ∀ value, counted → made value → made' (f value)) :
    Staged counted readable' miscount made' (f <$> result) := by
  cases staged with
  | miscounted count kind => exact .miscounted count kind
  | refused count unreadable kind => exact .refused count (mt (same count).mpr unreadable) kind
  | made count read made => exact .made count ((same count).mp read) (holds _ count made)

theorem readings_centered {keyword : ShapeKeyword} (centered : keyword = .ellipse ∨ keyword = .box) (word : Text)
    (arguments : List Text) : readings keyword word arguments =
    marked (· = 1) (if arguments.length = 4 ∨ arguments.length = 5 then arguments else []) := by
  rcases centered with rfl | rfl <;> rfl

variable [UnitLibrary] (mode : PositionMode)

theorem quantities_cases (shape : Text) (place : Nat → Unit) {latitude : Nat → Bool} {tokens : List Text}
    (safe : ¬ReachesExcess (marked latitude tokens)) :
    (∃ values, quantities shape place latitude tokens = .ok values ∧ List.Forall₂
        (fun item value => Token.quantity shape (place item.2) (latitude item.2) item.1 = .ok value) tokens.zipIdx values) ∨
      (∃ complaint, quantities shape place latitude tokens = .error (.complaint complaint) ∧ complaint.kind = .format) ∧
        ¬∀ reading ∈ marked latitude tokens, Token.IsRead reading.2 reading.1 := by
  rw [← quantities_interrupts_iff shape place] at safe
  cases reading : quantities shape place latitude tokens with
  | ok values => exact .inl ⟨values, rfl, forall₂_of_mapM_eq_ok reading⟩
  | error setback =>
    obtain ⟨⟨token, index⟩, listed, failed⟩ := exists_of_mapM_eq_error reading
    rw [reading] at safe
    have format := Token.isFormat_of_quantity failed safe
    refine .inr ⟨?_, fun each => ?_⟩
    · cases setback with
      | complaint complaint => exact ⟨complaint, rfl, format⟩
      | interruption interruption => exact format.elim
    · have read := each (token, latitude index) (List.mem_map.mpr ⟨(token, index), listed, rfl⟩)
      obtain ⟨quantity, accepted⟩ := (Token.quantity_ok_iff shape (place index) (latitude index) token).mpr read
      cases failed.symm.trans accepted

/-- The quantities of all tokens, in the order of the tokens. -/
theorem forall₂_means {shape : Text} {place : Nat → Unit} {latitude : Nat → Bool} {tokens : List Text}
    {values : List Quantity} (each : List.Forall₂
      (fun item value => Token.quantity shape (place item.2) (latitude item.2) item.1 = .ok value) tokens.zipIdx values) :
    List.Forall₂ (Token.Means place) (marked latitude tokens).zipIdx values := by
  rw [marked]
  revert each
  generalize 0 = start
  intro each
  induction tokens generalizing start values with
  | nil =>
    cases each
    exact .nil
  | cons token rest ih =>
    cases each with
    | cons first further => exact .cons (Token.quantity_ok_congr first []) (ih _ further)

theorem forall_isRead {place : Nat → Unit} {readings : List (Text × Bool)} {values : List Quantity}
    (means : List.Forall₂ (Token.Means place) readings.zipIdx values) :
    ∀ reading ∈ readings, Token.IsRead reading.2 reading.1 := by
  revert means
  generalize 0 = start
  intro means
  induction readings generalizing start values with
  | nil => exact List.forall_mem_nil _
  | cons reading rest ih =>
    cases means with
    | cons first further =>
      refine List.forall_mem_cons.mpr ⟨?_, ih _ further⟩
      exact (Token.quantity_ok_iff [] (place start) reading.2 reading.1).mp ⟨_, first⟩

/-- Further arguments of an ellipse or a box would make a ring, which is no more imported than other keywords are. -/
def miscount (keyword : ShapeKeyword) (arguments : List Text) : IssueKind :=
  match keyword with
  | .point => .syntactic
  | .circle => .syntactic
  | .ellipse => if 5 < arguments.length then .unsupported else .syntactic
  | .box => if 5 < arguments.length then .unsupported else .syntactic
  | .polygon => .syntactic
  | _ => .unsupported

/-- Every token that is read is a quantity, and the angle of an ellipse or a box is one. -/
structure IsReadable (keyword : ShapeKeyword) (word : Text) (arguments : List Text) : Prop where
  tokens : ∀ reading ∈ readings keyword word arguments, Token.IsRead reading.2 reading.1
  turn : keyword = .ellipse ∨ keyword = .box → ∀ token ∈ arguments[4]?, Token.IsAngle token

/-- The angle after a position and a size, in degrees. -/
def turnOf? : List Quantity → Option Number
  | [] => some 0
  | turn :: _ => turn.valueIn? .degree

/-- The shape that the quantities of its tokens make. -/
inductive IsMadeOf (arguments : List Text) : ShapeKeyword → List Quantity → Shape → Prop where
  | point {x y : Quantity} {further : List Quantity} : IsMadeOf arguments .point (x :: y :: further) (.point ⟨x, y⟩)
  | circle {x y width height : Quantity} :
    IsMadeOf arguments .circle [x, y, width, height] (.ellipse ⟨x, y⟩ ⟨width, height⟩ 0)
  | ellipse {x y width height : Quantity} {further : List Quantity} {turn : Number} (angle : turnOf? further = some turn) :
    IsMadeOf arguments .ellipse (x :: y :: width :: height :: further)
      (.ellipse ⟨x, y⟩ ⟨width, height⟩ (if arguments[2]? = arguments[3]? then 0 else fromVertical turn))
  | box {x y width height : Quantity} {further : List Quantity} {turn : Number} (angle : turnOf? further = some turn) :
    IsMadeOf arguments .box (x :: y :: width :: height :: further) (.box ⟨x, y⟩ ⟨width, height⟩ turn)
  | polygon {vertices : List Position} :
    IsMadeOf arguments .polygon (vertices.flatMap fun vertex => [vertex.x, vertex.y]) (.polygon vertices)

/-- The units of bare numbers, by the place of the token. A circle has the places of an ellipse without an angle. -/
def placeOf (keyword : ShapeKeyword) (arguments : List Text) : Nat → Unit :=
  match keyword with
  | .circle => centeredUnitIn mode 4
  | .ellipse => centeredUnitIn mode arguments.length
  | .box => centeredUnitIn mode arguments.length
  | _ => fun _ => mode.unit

/-- The shape is made of what its tokens are read as. -/
def IsReadFrom (keyword : ShapeKeyword) (word : Text) (arguments : List Text) (shape : Shape) : Prop :=
  ∃ values, List.Forall₂ (Token.Means (placeOf mode keyword arguments)) (readings keyword word arguments).zipIdx values ∧
    IsMadeOf arguments keyword values shape

theorem readPoint_staged {word : Text} {arguments : List Text} (safe : ¬ReachesExcess (readings .point word arguments)) :
    Staged (HasCount .point word arguments) (IsReadable .point word arguments) (miscount .point arguments)
      (IsReadFrom mode .point word arguments) (readPoint mode word arguments) := by
  rw [readPoint]
  cases found : pointTokens? word arguments with
  | none =>
    refine .miscounted (fun count => ?_) rfl
    rw [pointTokens?_eq, if_pos count] at found
    cases found
  | some tokens =>
    have count : HasCount .point word arguments := by
      by_contra few
      rw [pointTokens?_eq, if_neg few] at found
      cases found
    have read : readings .point word arguments = marked (· = 1) tokens := by rw [readings, found, Option.getD_some]
    rw [read] at safe
    rcases quantities_cases ShapeKeyword.point.name (fun _ => mode.unit) safe with
      ⟨values, accepted, each⟩ | ⟨⟨complaint, failed, format⟩, unread⟩
    · have means := @forall₂_means _ _ (fun _ => mode.unit) (· = 1) _ _ each
      have same := each.length_eq
      rw [List.length_zipIdx] at same
      have two : 2 ≤ values.length := same ▸ two_le_of_pointTokens? found
      obtain _ | ⟨x, _ | ⟨y, further⟩⟩ := values
      · simp at two
      · simp at two
      · simp only [accepted]
        refine .made count ⟨?_, by simp⟩ ⟨_, read ▸ means, .point⟩
        exact read ▸ forall_isRead means
    · simp only [failed]
      exact .refused count (fun readable : IsReadable .point word arguments => unread (read ▸ readable.tokens)) format

/-- Once all tokens are read, the angle decides. -/
theorem readCentered_eq {shape : Text} {arguments : List Text} {x y width height : Quantity} {further : List Quantity}
    (count : arguments.length = 4 ∨ arguments.length = 5)
    (accepted : quantities shape (centeredUnitIn mode arguments.length) (· = 1) arguments =
      .ok (x :: y :: width :: height :: further)) : readCentered mode shape arguments =
      (angle shape arguments (x :: y :: width :: height :: further)).mapError .complaint >>= fun degrees =>
        .ok ⟨⟨x, y⟩, ⟨width, height⟩, degrees⟩ := by
  rw [readCentered, (checkCentered_ok_iff shape arguments.length).mpr count]
  simp only [Except.mapError, accepted]
  rfl

/-- The tokens of a position and a size are quantities, and a fifth one is an angle. -/
def AreCentered (arguments : List Text) : Prop :=
  (∀ reading ∈ marked (· = 1) arguments, Token.IsRead reading.2 reading.1) ∧ ∀ token ∈ arguments[4]?, Token.IsAngle token

/-- The position, the size and the angle are what the tokens are read as. -/
def IsCenteredFrom (arguments : List Text) (centered : Centered) : Prop :=
  ∃ further, turnOf? further = some centered.angle ∧ List.Forall₂ (Token.Means (centeredUnitIn mode arguments.length))
    (marked (· = 1) arguments).zipIdx
      (centered.center.x :: centered.center.y :: centered.extent.width :: centered.extent.height :: further)

/-- Of tokens that are all quantities, only the fifth can still be refused, if it is no angle. -/
theorem readCentered_of_quantities {shape : Text} {arguments : List Text} {values : List Quantity}
    (count : arguments.length = 4 ∨ arguments.length = 5)
    (accepted : quantities shape (centeredUnitIn mode arguments.length) (· = 1) arguments = .ok values)
    (each : List.Forall₂ (fun item value => Token.quantity shape (centeredUnitIn mode arguments.length item.2)
      (decide (item.2 = 1)) item.1 = .ok value) arguments.zipIdx values) (kind : IssueKind) :
    Staged (arguments.length = 4 ∨ arguments.length = 5) (AreCentered arguments) kind (IsCenteredFrom mode arguments)
      (readCentered mode shape arguments) := by
  have means := @forall₂_means _ _ (centeredUnitIn mode arguments.length) (· = 1) _ _ each
  obtain ⟨xText, yText, widthText, heightText, further, rfl, rfl | ⟨turnText, rfl⟩⟩ := exists_centered count
  · simp only [List.zipIdx_cons, List.zipIdx_nil] at each
    obtain _ | ⟨_, _ | ⟨_, _ | ⟨_, _ | ⟨_, _ | _⟩⟩⟩⟩ := each
    rw [readCentered_eq mode count accepted]
    exact .made count ⟨forall_isRead means, by simp⟩ ⟨[], rfl, means⟩
  · simp only [List.zipIdx_cons, List.zipIdx_nil] at each
    obtain _ | ⟨_, _ | ⟨_, _ | ⟨_, _ | ⟨_, _ | @⟨_, turn, _, _, last, _ | _⟩⟩⟩⟩⟩ := each
    -- A bare angle counts degrees in any mode, so that whether it is one does not depend on the mode.
    have place : centeredUnitIn mode 5 4 = .degree := by cases mode <;> rfl
    change Token.quantity shape (centeredUnitIn mode 5 4) false turnText = .ok turn at last
    rw [place] at last
    have bare := Token.quantity_ok_congr last []
    rw [readCentered_eq mode count accepted]
    simp only [angle, List.drop_succ_cons, List.drop_zero]
    cases converted : turn.valueIn? .degree with
    | some degrees =>
      refine .made count ⟨forall_isRead means, ?_⟩ ⟨[turn], converted, means⟩
      rintro token ⟨⟩
      exact ⟨turn, degrees, bare, converted⟩
    | none =>
      refine .refused count (fun readable => ?_) rfl
      obtain ⟨quantity, degrees, read, converted'⟩ := readable.2 turnText rfl
      cases read.symm.trans bare
      cases converted.symm.trans converted'

/-- A position and a size, and an angle if there is a fifth argument. -/
theorem readCentered_staged (shape : Text) {arguments : List Text}
    (safe : ¬ReachesExcess (marked (· = 1) (if arguments.length = 4 ∨ arguments.length = 5 then arguments else []))) :
    Staged (arguments.length = 4 ∨ arguments.length = 5) (AreCentered arguments)
      (if 5 < arguments.length then .unsupported else .syntactic) (IsCenteredFrom mode arguments)
      (readCentered mode shape arguments) := by
  by_cases count : arguments.length = 4 ∨ arguments.length = 5
  · rw [if_pos count] at safe
    rcases quantities_cases shape (centeredUnitIn mode arguments.length) safe with
      ⟨values, accepted, each⟩ | ⟨⟨complaint, failed, format⟩, unread⟩
    · exact readCentered_of_quantities mode count accepted each _
    · rw [readCentered, (checkCentered_ok_iff shape arguments.length).mpr count]
      simp only [Except.mapError, failed]
      exact .refused count (fun readable => unread readable.1) format
  · rw [readCentered]
    cases judged : checkCentered shape arguments.length with
    | ok accepted => exact absurd ((checkCentered_ok_iff shape arguments.length).mp judged) count
    | error complaint => exact .miscounted count (kind_of_checkCentered judged)

section centered

variable {keyword : ShapeKeyword} {word : Text} {arguments : List Text} (centered : keyword = .ellipse ∨ keyword = .box)
include centered

theorem isReadable_centered (count : arguments.length = 4 ∨ arguments.length = 5) :
    AreCentered arguments ↔ IsReadable keyword word arguments := by
  have read := readings_centered centered word arguments
  rw [if_pos count] at read
  rw [AreCentered, ← read]
  exact ⟨fun ⟨tokens, turn⟩ => ⟨tokens, fun _ => turn⟩, fun readable => ⟨readable.tokens, readable.turn centered⟩⟩

/-- An ellipse or a box is made of what is read as a position, a size and an angle. -/
theorem centered_staged (make : Centered → Shape)
    (makes : ∀ x y width height further turn, turnOf? further = some turn →
      IsMadeOf arguments keyword (x :: y :: width :: height :: further) (make ⟨⟨x, y⟩, ⟨width, height⟩, turn⟩))
    (safe : ¬ReachesExcess (readings keyword word arguments)) (shape : Text) :
    Staged (HasCount keyword word arguments) (IsReadable keyword word arguments) (miscount keyword arguments)
      (IsReadFrom mode keyword word arguments) (make <$> readCentered mode shape arguments) := by
  have count : HasCount keyword word arguments ↔ arguments.length = 4 ∨ arguments.length = 5 := by
    rcases centered with rfl | rfl <;> rfl
  have kind : miscount keyword arguments = if 5 < arguments.length then .unsupported else .syntactic := by
    rcases centered with rfl | rfl <;> rfl
  rw [count, kind]
  have read := readings_centered centered word arguments
  have place : placeOf mode keyword arguments = centeredUnitIn mode arguments.length := by
    rcases centered with rfl | rfl <;> rfl
  refine (readCentered_staged mode shape (read ▸ safe)).map (isReadable_centered centered) ?_
  rintro ⟨⟨x, y⟩, ⟨width, height⟩, turn⟩ counted ⟨further, angle, means⟩
  rw [if_pos counted] at read
  rw [← place] at means
  exact ⟨_, read ▸ means, makes x y width height further turn angle⟩

end centered

theorem readEllipse_staged {word : Text} {arguments : List Text} (safe : ¬ReachesExcess (readings .ellipse word arguments)) :
    Staged (HasCount .ellipse word arguments) (IsReadable .ellipse word arguments) (miscount .ellipse arguments)
      (IsReadFrom mode .ellipse word arguments) (readEllipse mode arguments) := by
  have staged := centered_staged mode (.inl rfl) (fun centered => .ellipse centered.center centered.extent
    (if arguments[2]? = arguments[3]? then 0 else fromVertical centered.angle))
    (fun _ _ _ _ _ _ angle => .ellipse angle) safe ShapeKeyword.ellipse.name
  rwa [map_eq_pure_bind] at staged

theorem readBox_staged {word : Text} {arguments : List Text} (safe : ¬ReachesExcess (readings .box word arguments)) :
    Staged (HasCount .box word arguments) (IsReadable .box word arguments) (miscount .box arguments)
      (IsReadFrom mode .box word arguments) (readBox mode arguments) := by
  have staged := centered_staged mode (.inr rfl) (fun centered => .box centered.center centered.extent centered.angle)
    (fun _ _ _ _ _ _ angle => .box angle) safe ShapeKeyword.box.name
  rwa [map_eq_pure_bind] at staged

/-- A circle has no angle to be read. -/
theorem readCircle_staged {word : Text} {arguments : List Text} (safe : ¬ReachesExcess (readings .circle word arguments)) :
    Staged (HasCount .circle word arguments) (IsReadable .circle word arguments) (miscount .circle arguments)
      (IsReadFrom mode .circle word arguments) (readCircle mode arguments) := by
  match arguments with
  | [] => exact .miscounted (by simp [HasCount]) rfl
  | [_] => exact .miscounted (by simp [HasCount]) rfl
  | [_, _] => exact .miscounted (by simp [HasCount]) rfl
  | x :: y :: radius :: further =>
    have count : HasCount .circle word (x :: y :: radius :: further) := by simp [HasCount]
    have readable (each : IsReadable .ellipse word [x, y, radius, radius]) :
        IsReadable .circle word (x :: y :: radius :: further) := ⟨each.tokens, by simp⟩
    have readable' (each : IsReadable .circle word (x :: y :: radius :: further)) :
        IsReadable .ellipse word [x, y, radius, radius] := ⟨each.tokens, by simp⟩
    have staged := @readEllipse_staged _ mode word [x, y, radius, radius] safe
    change Staged _ _ _ _ (readEllipse mode [x, y, radius, radius])
    generalize readEllipse mode [x, y, radius, radius] = result at staged ⊢
    cases staged with
    | miscounted few => exact absurd (.inl rfl) few
    | refused _ unreadable kind => exact .refused count (mt readable' unreadable) kind
    | made _ read holds =>
      obtain ⟨values, means, made⟩ := holds
      refine .made count (readable read) ⟨values, means, ?_⟩
      cases made with
      | @ellipse x y width height rest _ _ =>
        have same := means.length_eq
        have single : rest = [] := by simpa [readings, marked] using same.symm
        simp only [List.getElem?_cons_succ, List.getElem?_cons_zero, if_true, single]
        exact .circle

theorem readPolygon_staged {word : Text} {arguments : List Text} (safe : ¬ReachesExcess (readings .polygon word arguments)) :
    Staged (HasCount .polygon word arguments) (IsReadable .polygon word arguments) (miscount .polygon arguments)
      (IsReadFrom mode .polygon word arguments) (readPolygon mode arguments) := by
  rw [readPolygon]
  by_cases odd : arguments.length % 2 ≠ 0
  · rw [if_pos odd]
    exact .miscounted (fun count => odd count.1) rfl
  rw [if_neg odd]
  by_cases few : arguments.length / 2 < 3
  · rw [if_pos few]
    exact .miscounted (fun count => by have := count.2; omega) rfl
  rw [if_neg few]
  have count : HasCount .polygon word arguments := ⟨not_not.mp odd, by omega⟩
  have read : readings .polygon word arguments = marked (· % 2 = 1) arguments := by
    rw [readings, if_pos ⟨not_not.mp odd, not_lt.mp few⟩]
  rw [read] at safe
  rcases quantities_cases ShapeKeyword.polygon.name (fun _ => mode.unit) safe with
    ⟨values, accepted, each⟩ | ⟨⟨complaint, failed, format⟩, unread⟩
  · have means := @forall₂_means _ _ (fun _ => mode.unit) (· % 2 = 1) _ _ each
    have same := each.length_eq
    rw [List.length_zipIdx] at same
    have made := @IsMadeOf.polygon arguments (pairUp values)
    rw [flatMap_pairUp (same ▸ count.1)] at made
    simp only [accepted]
    exact .made count ⟨read ▸ forall_isRead means, by simp⟩ ⟨values, read ▸ means, made⟩
  · simp only [failed]
    exact .refused count (fun readable : IsReadable .polygon word arguments => unread (read ▸ readable.tokens)) format

/-- Reading a shape ends at the count of its arguments, at one of its tokens, or with the shape that these make. -/
theorem read_staged {keyword : ShapeKeyword} {word : Text} {arguments : List Text}
    (safe : ¬ReachesExcess (readings keyword word arguments)) :
    Staged (HasCount keyword word arguments) (IsReadable keyword word arguments) (miscount keyword arguments)
      (IsReadFrom mode keyword word arguments) (read mode keyword word arguments) := by
  cases keyword with
  | point => exact readPoint_staged mode safe
  | circle => exact readCircle_staged mode safe
  | ellipse => exact readEllipse_staged mode safe
  | box => exact readBox_staged mode safe
  | polygon => exact readPolygon_staged mode safe
  | _ => exact .miscounted id rfl

end Shape
end SkyRegion
