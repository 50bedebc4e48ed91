import SkyRegion.Proofs.Returning
import SkyRegion.Proofs.ShapeReading

/-! Shapes read from tokens that count pixels. The mode only gives units to bare numbers, so such tokens are read alike in
every mode; other tokens of a shape are read in one unit everywhere, or their values are not used. -/

namespace SkyRegion

open Image Text

/-- A number with a letter for pixels after it. -/
def Token.CountsPixels (token : Text) : Prop :=
  ∃ numeral : Numeral, numeral.IsWellFormed ∧ (token = numeral.text ++ ['p'] ∨ token = numeral.text ++ ['i'])

theorem Token.countsPixels_iff (token : Text) : CountsPixels token ↔
    (∀ c ∈ token, isBlank c = false) ∧ (afterNumeral? token = some ['p'] ∨ afterNumeral? token = some ['i']) := by
  constructor
  · have scanned {numeral : Numeral} (wellFormed : numeral.IsWellFormed) {letter : Char}
        (known : letterUnits.lookup letter = some .pixel) (solid : isBlank letter = false) :
        (∀ c ∈ numeral.text ++ [letter], isBlank c = false) ∧ afterNumeral? (numeral.text ++ [letter]) = some [letter] := by
      have ends : numeral.Ends [letter] := Numeral.ends_of_isDivider (by rintro c ⟨⟩; exact isDivider_letter known)
      rw [List.forall_mem_append, List.forall_mem_singleton]
      exact ⟨⟨fun c member => Numeral.isBlank_of_isMark (wellFormed.isMark_of_mem_text c member), solid⟩,
        afterNumeral?_append wellFormed ends⟩
    rintro ⟨numeral, wellFormed, rfl | rfl⟩
    · exact (scanned wellFormed rfl (by decide)).imp_right .inl
    · exact (scanned wellFormed rfl (by decide)).imp_right .inr
  · rintro ⟨solid, found | found⟩
    · obtain ⟨numeral, wellFormed, same⟩ := afterNumeral?_sound solid found
      exact ⟨numeral, wellFormed, .inl same⟩
    · obtain ⟨numeral, wellFormed, same⟩ := afterNumeral?_sound solid found
      exact ⟨numeral, wellFormed, .inr same⟩

instance (token : Text) : Decidable (Token.CountsPixels token) :=
  let ends := (Token.afterNumeral? token).any fun rest => rest = ['p'] || rest = ['i']
  decidable_of_iff ((token.all (!isBlank ·) && ends) = true) <| by
    rw [Token.countsPixels_iff]
    simp only [ends]
    cases Token.afterNumeral? token <;> simp

theorem Token.CountsPixels.reads [UnitLibrary] {token : Text} (counts : CountsPixels token) :
    ∃ value, ReadsAs token fun _ => ⟨value, .pixel⟩ := by
  obtain ⟨numeral, wellFormed, rfl | rfl⟩ := counts
  · exact ⟨numeral.toNumber, fun shape place latitude => quantity_named wellFormed rfl rfl (by decide) shape place latitude⟩
  · exact ⟨numeral.toNumber, fun shape place latitude => quantity_named wellFormed rfl rfl (by decide) shape place latitude⟩

/-- A token can only fail where its value is not used, and fails alike at every place. -/
theorem Token.quantity_unused [UnitLibrary] (shape : Text) (place place' : Unit) (latitude : Bool) (token : Text)
    (result : Except Setback α) : (Token.quantity shape place latitude token >>= fun _ => result) =
      Token.quantity shape place' latitude token >>= fun _ => result := by
  rw [quantity_eq, quantity_eq]
  cases checked shape latitude token with
  | error complaint => rfl
  | ok text =>
    dsimp only
    rcases Quantity.read text with fault | _ | quantity <;> rfl

namespace Shape

/-- The tokens of positions and lengths. -/
def measures (keyword : ShapeKeyword) (word : Text) (arguments : List Text) : List Text :=
  match keyword with
  | .point => ((pointTokens? word arguments).getD []).take 2
  | .circle => arguments.take 3
  | .ellipse => arguments.take 4
  | .box => arguments.take 4
  | .polygon => arguments
  | _ => []

theorem pointTokens?_eq_cons {word : Text} {arguments tokens : List Text}
    (found : pointTokens? word arguments = some tokens) :
    ∃ x y rest, tokens = x :: y :: rest := by
  rw [pointTokens?.eq_def, Option.filter_eq_some_iff] at found
  have long : 2 ≤ tokens.length := of_decide_eq_true found.2
  obtain _ | ⟨x, _ | ⟨y, rest⟩⟩ := tokens
  · simp at long
  · simp at long
  · exact ⟨x, y, rest, rfl⟩

variable [UnitLibrary] {shape : Text} {latitude : Nat → Bool} {tokens : List Text}

/-- Places matter only to tokens that have no unit. -/
theorem quantities_congr {place place' : Nat → Unit}
    (same : ∀ index token, tokens[index]? = some token → Token.CountsPixels token ∨ place index = place' index) :
    quantities shape place latitude tokens = quantities shape place' latitude tokens := by
  apply mapM_congr
  intro ⟨token, index⟩ listed
  rcases same index token (List.mem_zipIdx_iff_getElem?.mp listed) with counts | same
  · obtain ⟨value, reads⟩ := counts.reads
    exact (reads ..).trans (reads ..).symm
  · simp only [same]

theorem forall₂_units {place : Nat → Unit} {read : List Quantity}
    (accepted : quantities shape place latitude tokens = .ok read) :
    List.Forall₂ (fun token quantity => Token.CountsPixels token → quantity.unit = .pixel) tokens read := by
  refine (forall₂_quantities accepted).imp ?_
  rintro token quantity ⟨place, latitude, read⟩ counts
  obtain ⟨value, reads⟩ := counts.reads
  cases (reads ..).symm.trans read
  rfl

variable (mode : PositionMode) {word : Text} {arguments : List Text}

theorem quantities_unused (shape : Text) (place place' : Nat → Unit) (latitude : Nat → Bool) (items : List (Text × Nat))
    (result : Except Setback α) :
    ((items.mapM fun (token, index) => Token.quantity shape (place index) (latitude index) token) >>= fun _ => result) =
      (items.mapM fun (token, index) => Token.quantity shape (place' index) (latitude index) token) >>= fun _ => result := by
  induction items with
  | nil => rfl
  | cons item rest ih =>
    simp only [List.mapM_cons, bind_assoc, pure_bind, ih]
    exact Token.quantity_unused ..

theorem readPoint_congr (counts : ∀ token ∈ ((pointTokens? word arguments).getD []).take 2, Token.CountsPixels token) :
    readPoint mode word arguments = readPoint .pixels word arguments := by
  rw [readPoint, readPoint]
  cases found : pointTokens? word arguments with
  | none => rfl
  | some tokens =>
    rw [found] at counts
    obtain ⟨x, y, rest, rfl⟩ := pointTokens?_eq_cons found
    obtain ⟨xValue, xReads⟩ := (counts x (by simp)).reads
    obtain ⟨yValue, yReads⟩ := (counts y (by simp)).reads
    simp only [quantities, List.zipIdx_cons, List.mapM_cons, xReads _ _ _, yReads _ _ _, bind_assoc, pure_bind]
    exact quantities_unused ShapeKeyword.point.name (fun _ => mode.unit) (fun _ => PositionMode.pixels.unit) (· = 1)
      (rest.zipIdx 2) (.ok (Shape.point ⟨⟨xValue, .pixel⟩, ⟨yValue, .pixel⟩⟩))

theorem readCentered_congr (shape : Text) (counts : ∀ token ∈ arguments.take 4, Token.CountsPixels token) :
    readCentered mode shape arguments = readCentered .pixels shape arguments := by
  rw [readCentered, readCentered]
  cases checked : checkCentered shape arguments.length with
  | error complaint => rfl
  | ok accepted =>
    have count := (checkCentered_ok_iff shape arguments.length).mp checked
    have same := @quantities_congr _ shape (· = 1) arguments (centeredUnitIn mode arguments.length)
      (centeredUnitIn .pixels arguments.length)
    dsimp only
    rw [same]
    intro index token present
    by_cases size : index < 4
    · left
      apply counts
      rw [← List.getElem?_take_of_lt size] at present
      exact List.mem_of_getElem? present
    · right
      obtain ⟨inside, _⟩ := List.getElem?_eq_some_iff.mp present
      have last : index + 1 = arguments.length := by omega
      simp [centeredUnitIn, last]

theorem readEllipse_congr (counts : ∀ token ∈ arguments.take 4, Token.CountsPixels token) :
    readEllipse mode arguments = readEllipse .pixels arguments := by
  rw [readEllipse, readEllipse, readCentered_congr mode _ counts]

/-- Positions and lengths that count pixels are read alike in every mode. -/
theorem read_congr {keyword : ShapeKeyword} (counts : ∀ token ∈ measures keyword word arguments, Token.CountsPixels token) :
    read mode keyword word arguments = read .pixels keyword word arguments := by
  cases keyword with
  | point => exact readPoint_congr mode counts
  | circle =>
    rw [read, read, readCircle.eq_def, readCircle.eq_def]
    split
    · rename_i x y radius rest
      apply readEllipse_congr mode
      intro token listed
      apply counts
      simpa [measures] using listed
    · rfl
  | ellipse => exact readEllipse_congr mode counts
  | box => rw [read, read, readBox, readBox, readCentered_congr mode _ counts]
  | polygon =>
    have same := @quantities_congr _ ShapeKeyword.polygon.name (· % 2 = 1) arguments (fun _ => mode.unit)
      (fun _ => PositionMode.pixels.unit) fun _ token present => .inl (counts token (List.mem_of_getElem? present))
    rw [read, read, readPolygon, readPolygon]
    dsimp only
    rw [same]
  | _ => rfl

end Shape

/-- Both coordinates count pixels. -/
def Position.CountsPixels (position : Position) : Prop := position.x.unit = .pixel ∧ position.y.unit = .pixel

def Extent.CountsPixels (extent : Extent) : Prop := extent.width.unit = .pixel ∧ extent.height.unit = .pixel

namespace Shape

def CountsPixels : Shape → Prop
  | .point position => position.CountsPixels
  | .box center extent _ => center.CountsPixels ∧ extent.CountsPixels
  | .ellipse center extent _ => center.CountsPixels ∧ extent.CountsPixels
  | .polygon vertices => ∀ vertex ∈ vertices, vertex.CountsPixels

variable {mode : PositionMode} {word : Text} {arguments : List Text} {shape : Shape}

section

variable [UnitLibrary]

theorem forall_unit_of_quantities {name : Text} {place : Nat → Unit} {latitude : Nat → Bool} {read : List Quantity}
    (counts : ∀ token ∈ arguments, Token.CountsPixels token) (accepted : quantities name place latitude arguments = .ok read) :
    ∀ quantity ∈ read, quantity.unit = .pixel := by
  have each := forall₂_units accepted
  clear accepted
  induction each with
  | nil => exact List.forall_mem_nil _
  | cons first _ ih =>
    rw [List.forall_mem_cons] at counts ⊢
    exact ⟨first counts.1, ih counts.2⟩

theorem countsPixels_of_readCentered {name : Text} {centered : Centered}
    (counts : ∀ token ∈ arguments.take 4, Token.CountsPixels token)
    (accepted : readCentered mode name arguments = .ok centered) :
    centered.center.CountsPixels ∧ centered.extent.CountsPixels := by
  simp only [readCentered, bind_eq_ok_iff] at accepted
  obtain ⟨_, _, read, quantities, _, _, accepted⟩ := accepted
  split at accepted
  · cases accepted
    have units := forall₂_units quantities
    simp only [List.forall₂_cons_right_iff] at units
    obtain ⟨_, _, x, ⟨_, _, y, ⟨_, _, width, ⟨_, _, height, _, rfl⟩, rfl⟩, rfl⟩, rfl⟩ := units
    exact ⟨⟨x (counts _ (by simp)), y (counts _ (by simp))⟩, ⟨width (counts _ (by simp)), height (counts _ (by simp))⟩⟩
  · cases accepted

theorem countsPixels_of_readEllipse (counts : ∀ token ∈ arguments.take 4, Token.CountsPixels token)
    (accepted : readEllipse mode arguments = .ok shape) : shape.CountsPixels := by
  rw [readEllipse, bind_eq_ok_iff] at accepted
  obtain ⟨centered, read, ⟨⟩⟩ := accepted
  exact countsPixels_of_readCentered counts read

end

theorem countsPixels_of_pairUp {quantities : List Quantity} (units : ∀ quantity ∈ quantities, quantity.unit = .pixel) :
    ∀ vertex ∈ pairUp quantities, vertex.CountsPixels := by
  induction quantities using pairUp.induct with
  | case1 x y rest ih =>
    rw [List.forall_mem_cons, List.forall_mem_cons] at units
    rw [pairUp, List.forall_mem_cons]
    exact ⟨⟨units.1, units.2.1⟩, ih units.2.2⟩
  | case2 quantities other =>
    rw [pairUp.eq_def]
    split
    · exact absurd rfl (other _ _ _)
    · exact List.forall_mem_nil _

/-- A shape read of tokens that count pixels counts pixels. -/
theorem countsPixels_of_read [UnitLibrary] {keyword : ShapeKeyword}
    (counts : ∀ token ∈ measures keyword word arguments, Token.CountsPixels token)
    (accepted : read mode keyword word arguments = .ok shape) : shape.CountsPixels := by
  cases keyword with
  | point =>
    rw [measures] at counts
    rw [read, readPoint] at accepted
    cases found : pointTokens? word arguments with
    | none => simp [found] at accepted
    | some tokens =>
      simp only [found, bind_eq_ok_iff] at accepted
      rw [found] at counts
      obtain ⟨read, quantities, accepted⟩ := accepted
      split at accepted
      · cases accepted
        have units := forall₂_units quantities
        simp only [List.forall₂_cons_right_iff] at units
        obtain ⟨_, _, x, ⟨_, _, y, _, rfl⟩, rfl⟩ := units
        exact ⟨x (counts _ (by simp)), y (counts _ (by simp))⟩
      · cases accepted
  | circle =>
    rw [read, readCircle.eq_def] at accepted
    split at accepted
    · refine countsPixels_of_readEllipse (fun token listed => counts token ?_) accepted
      simpa [measures] using listed
    · cases accepted
  | ellipse => exact countsPixels_of_readEllipse counts accepted
  | box =>
    rw [read, readBox, bind_eq_ok_iff] at accepted
    obtain ⟨centered, read, ⟨⟩⟩ := accepted
    exact countsPixels_of_readCentered counts read
  | polygon =>
    rw [read, readPolygon] at accepted
    split at accepted
    · cases accepted
    · split at accepted
      · cases accepted
      · obtain ⟨quantities, read, ⟨⟩⟩ := (bind_eq_ok_iff ..).mp accepted
        exact countsPixels_of_pairUp (forall_unit_of_quantities counts read)
  | _ => cases accepted

end Shape

end SkyRegion
