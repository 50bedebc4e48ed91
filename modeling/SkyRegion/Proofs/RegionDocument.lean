import SkyRegion.Proofs.Faults
import SkyRegion.Region.Document

/-! Regions written as structured values. What a region is written as is read again as that region, so that reading and
writing bring every value that is accepted into a normal form. -/

namespace SkyRegion.Region

theorem check_eq_ok_iff {region checked : Region} :
    check region = .ok checked ↔ region.kind.fits region.points.length = true ∧ region = checked := by
  rw [check]
  split <;> simp [*]

/-- Whatever is read, the points fit the kind. -/
theorem fits_of_ofDocument {fields : List (Text × Document)} {region : Region} (read : ofDocument fields = .ok region) :
    region.kind.fits region.points.length = true := by
  simp only [ofDocument, bind_eq_ok_iff, mapError_eq_ok_iff, check_eq_ok_iff] at read
  obtain ⟨_, _, _, _, _, _, _, _, _, _, _, _, fits, rfl⟩ := read
  exact fits

theorem mapM_readPoint_written (points : List Point) :
    (points.map fun point => Document.list [.number point.x, .number point.y]).mapM readPoint = .ok points := by
  induction points with
  | nil => rfl
  | cons point points ih =>
    rw [List.map_cons, List.mapM_cons, ih]
    rfl

theorem readKind_name (kind : RegionKind) : readKind kind.name = .ok kind := by
  cases kind <;> rfl

/-- Each field is read as what it was written from, and only the count of the points is left to be judged. -/
theorem ofDocument_toDocument (region : Region) :
    ofDocument region.toDocument = (check region).mapError DocumentFault.count := by
  have points : readField region.toDocument "control_points" [] readPoints = .ok region.points :=
    mapM_readPoint_written region.points
  have kind : readField region.toDocument "kind" [] readText = .ok region.kind.name := rfl
  have rotation : readField region.toDocument "rotation" 0 readNumber = .ok region.rotation := rfl
  have name : readField region.toDocument "name" [] readText = .ok region.name := rfl
  have file : readField region.toDocument "file_id" 0 readInteger = .ok region.fileId := rfl
  rw [ofDocument, points, kind, rotation, name, file]
  change (do
    let kind ← readKind region.kind.name
    (check { region with kind := kind }).mapError DocumentFault.count) = _
  rw [readKind_name]
  rfl

theorem ofDocument_toDocument_of_fits {region : Region} (fits : region.kind.fits region.points.length = true) :
    ofDocument region.toDocument = .ok region := by
  rw [ofDocument_toDocument, mapError_eq_ok_iff, check_eq_ok_iff]
  exact ⟨fits, rfl⟩

/-- A structured value as it is written after it has been read. -/
def normalized (fields : List (Text × Document)) : Except DocumentFault (List (Text × Document)) :=
  (ofDocument fields).map toDocument

/-- A region that was read, or whose points fit its kind however it was made, is read again from what it is written as; so
what has been read and written once stays the same. -/
theorem ofDocument_returns :
    (∀ fields region, ofDocument fields = .ok region →
      ofDocument region.toDocument = .ok region ∧ normalized region.toDocument = normalized fields) ∧
    ∀ region : Region, region.kind.fits region.points.length = true →
      ofDocument region.toDocument = .ok region ∧ normalized region.toDocument = .ok region.toDocument := by
  constructor
  · intro fields region read
    have again := ofDocument_toDocument_of_fits (fits_of_ofDocument read)
    exact ⟨again, by rw [normalized, normalized, again, read]⟩
  · intro region fits
    have again := ofDocument_toDocument_of_fits fits
    exact ⟨again, by rw [normalized, again]; rfl⟩

theorem ofDocument_returns_lenient :
    let fields := [("kind".toList, Document.text "ellipse".toList),
      ("control_points".toList, .list [.list [.text " 1_0 ".toList, .bool true, .null], .text "25".toList]),
      ("rotation".toList, .text "nan".toList), ("name".toList, .list [.null, .integer (-7)]),
      ("file_id".toList, .text " +3 ".toList)]
    let region : Region := ⟨.ellipse, [⟨10, 1⟩, ⟨2, 5⟩], .nan, "[None, -7]".toList, 3⟩
    ofDocument fields = .ok region ∧ ofDocument region.toDocument = .ok region ∧
      normalized region.toDocument = normalized fields ∧ region.kind.fits region.points.length = true ∧
      normalized region.toDocument = .ok region.toDocument := by
  intro fields region
  have read : ofDocument fields = .ok region := by decide +kernel
  have fits : region.kind.fits region.points.length = true := rfl
  obtain ⟨again, same⟩ := ofDocument_returns.1 fields region read
  exact ⟨read, again, same, fits, (ofDocument_returns.2 region fits).2⟩

end SkyRegion.Region
