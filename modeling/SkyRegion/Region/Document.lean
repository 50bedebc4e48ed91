import SkyRegion.Document
import SkyRegion.Number.Reading
import SkyRegion.Region.Basic

/-! Regions as structured values. Reading is lenient: numbers may be written as text, points may hold more
than two coordinates, and every field but the points may be missing. Fields are read in the order points,
kind, rotation, name, file; the first that cannot be read decides. -/

namespace SkyRegion

open Text

namespace Region

inductive DocumentFault where
  | pointsNotList (type : Text)
  | notSubscriptable (type : Text)
  | tooShort
  | noSuchKey
  | notNumber (type : Text)
  | notInteger (type : Text)
  | malformedNumber (text : Text)
  | malformedInteger (text : Text)
  | tooManyDigits (digits : Nat)
  | integerOfNan
  | integerOfInfinity
  | integerTooLarge
  | integerNotWritten
  | unknownKind (unknown : UnknownName)
  | count (fault : CountFault)
  deriving DecidableEq

namespace DocumentFault

/-- Quoted text in the complaint about an integer is cut at this length. -/
def quoteLimit : Nat := 200

def message : DocumentFault → Text
  | .pointsNotList type => "control_points must be a list, got ".toList ++ type
  | .notSubscriptable type => '\'' :: type ++ "' object is not subscriptable".toList
  | .tooShort => "list index out of range".toList
  | .noSuchKey => "0".toList
  | .notNumber type =>
    "float() argument must be a string or a real number, not '".toList ++ type ++ "'".toList
  | .notInteger type =>
    "int() argument must be a string, a bytes-like object or a real number, not '".toList ++ type ++ ['\'']
  | .malformedNumber text => "could not convert string to float: ".toList ++ quoted text
  | .malformedInteger text =>
    "invalid literal for int() with base 10: ".toList ++ (quoted text).take quoteLimit
  | .tooManyDigits digits => IntegerFault.lengthMessage digits
  | .integerOfNan => "cannot convert float NaN to integer".toList
  | .integerOfInfinity => "cannot convert float infinity to integer".toList
  | .integerTooLarge => "int too large to convert to float".toList
  | .integerNotWritten => IntegerFault.writingMessage
  | .unknownKind unknown => unknown.message
  | .count fault => fault.message

/-- What sort of thing is wrong. -/
inductive Family where
  | type
  | value
  | validation
  | index
  | key
  | range
  deriving DecidableEq

namespace Family

/-- Callers are told of values of the wrong type, of values that mean nothing and of records that are not valid. -/
def isDocumented : Family → Bool
  | .type | .value | .validation => true
  | .index | .key | .range => false

end Family

def family : DocumentFault → Family
  | .pointsNotList _ | .notSubscriptable _ | .notNumber _ | .notInteger _ => .type
  | .malformedNumber _ | .malformedInteger _ | .tooManyDigits _ | .integerOfNan | .integerNotWritten
  | .unknownKind _ => .value
  | .count _ => .validation
  | .tooShort => .index
  | .noSuchKey => .key
  | .integerOfInfinity | .integerTooLarge => .range

end DocumentFault

/-- A truth value counts as zero or one. -/
def readNumber : Document → Except DocumentFault Number
  | .bool value => .ok (if value then 1 else 0)
  | .integer value => (Floating.ofInt? value).elim (.error .integerTooLarge) .ok
  | .number value => .ok value
  | .text value => (Number.ofText? value).elim (.error (.malformedNumber value)) .ok
  | value => .error (.notNumber value.typeName)

/-- A fractional number is cut toward zero. -/
def readInteger : Document → Except DocumentFault Int
  | .bool value => .ok (if value then 1 else 0)
  | .integer value => .ok value
  | .number .nan => .error .integerOfNan
  | .number (.infinite _) => .error .integerOfInfinity
  | .number value => .ok value.truncate
  | .text value =>
    match Text.readInt value with
    | .ok integer => .ok integer
    | .error .malformed => .error (.malformedInteger value)
    | .error (.tooLong digits) => .error (.tooManyDigits digits)
  | value => .error (.notInteger value.typeName)

/-- The coordinate at an index of a point, which may also be given as text with a digit for each. -/
def coordinate (point : Document) (index : Nat) : Except DocumentFault Document :=
  match point with
  | .list items => items[index]?.elim (.error .tooShort) .ok
  | .text value => value[index]?.elim (.error .tooShort) fun c => .ok (.text [c])
  | .object _ => .error .noSuchKey
  | value => .error (.notSubscriptable value.typeName)

def readCoordinate (point : Document) (index : Nat) : Except DocumentFault Number :=
  coordinate point index >>= readNumber

def readPoint (point : Document) : Except DocumentFault Point := do
  let x ← readCoordinate point 0
  let y ← readCoordinate point 1
  return ⟨x, y⟩

def readPoints : Document → Except DocumentFault (List Point)
  | .list items => items.mapM readPoint
  | value => .error (.pointsNotList value.typeName)

def readText (value : Document) : Except DocumentFault Text := value.toText?.elim (.error .integerNotWritten) .ok

def readKind (name : Text) : Except DocumentFault RegionKind :=
  (RegionKind.ofName? name).elim (.error (.unknownKind ⟨"RegionKind".toList, name⟩)) .ok

/-- A field that is not there has a value of its own. -/
def readField (fields : List (Text × Document)) (name : String) (missing : α)
    (read : Document → Except DocumentFault α) : Except DocumentFault α :=
  (Document.field? fields name.toList).elim (.ok missing) read

def ofDocument (fields : List (Text × Document)) : Except DocumentFault Region := do
  let points ← readField fields "control_points" [] readPoints
  let kind ← readKind (← readField fields "kind" [] readText)
  let rotation ← readField fields "rotation" 0 readNumber
  let name ← readField fields "name" [] readText
  let fileId ← readField fields "file_id" 0 readInteger
  (check ⟨kind, points, rotation, name, fileId⟩).mapError .count

def toDocument (region : Region) : List (Text × Document) :=
  [("kind".toList, .text region.kind.name),
   ("control_points".toList, .list (region.points.map fun point => .list [.number point.x, .number point.y])),
   ("rotation".toList, .number region.rotation),
   ("name".toList, .text region.name),
   ("file_id".toList, .integer region.fileId)]

end Region
end SkyRegion
