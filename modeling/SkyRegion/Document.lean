import SkyRegion.Number.Layout
import SkyRegion.Number.Reading
import SkyRegion.Text.Quoted

/-! Structured values of unknown shape, as a record or a setting may be given. Messages show them in one
fixed notation, and name their types. -/

namespace SkyRegion

open Text

inductive Document where
  | null
  | bool (value : Bool)
  | integer (value : Int)
  | number (value : Number)
  | text (value : Text)
  | list (items : List Document)
  | object (fields : List (Text × Document))

namespace Document

def typeName : Document → Text
  | .null => "NoneType".toList
  | .bool _ => "bool".toList
  | .integer _ => "int".toList
  | .number _ => "float".toList
  | .text _ => "str".toList
  | .list _ => "list".toList
  | .object _ => "dict".toList

def commaSeparated (items : List Text) : Text := ", ".toList.intercalate items

mutual

def describe : Document → Text
  | .null => "None".toList
  | .bool value => (if value then "True" else "False").toList
  | .integer value => Text.ofInt value
  | .number value => value.describe
  | .text value => quoted value
  | .list items => '[' :: commaSeparated (describeItems items) ++ [']']
  | .object fields => '{' :: commaSeparated (describeFields fields) ++ ['}']

def describeItems : List Document → List Text
  | [] => []
  | item :: items => item.describe :: describeItems items

def describeFields : List (Text × Document) → List Text
  | [] => []
  | (key, value) :: fields => (quoted key ++ ':' :: ' ' :: value.describe) :: describeFields fields

end

/-- Text stands for itself; everything else is described. -/
def toText : Document → Text
  | .text value => value
  | value => value.describe

mutual

/-- An integer with more digits than are ever read is not written either, wherever it stands. -/
def isWritable : Document → Bool
  | .integer value => (Text.ofNat value.natAbs).length ≤ digitLimit
  | .list items => areWritable items
  | .object fields => areFieldsWritable fields
  | _ => true

def areWritable : List Document → Bool
  | [] => true
  | item :: items => item.isWritable && areWritable items

def areFieldsWritable : List (Text × Document) → Bool
  | [] => true
  | (_, value) :: fields => value.isWritable && areFieldsWritable fields

end

def toText? (value : Document) : Option Text := if value.isWritable then some value.toText else none

/-- Of fields with one name the last counts. -/
def field? (fields : List (Text × Document)) (name : Text) : Option Document :=
  fields.reverse.lookup name

end Document

/-- A name that belongs to none of the members of a family. -/
structure UnknownName where
  family : Text
  name : Text
  deriving DecidableEq

namespace UnknownName

def message (unknown : UnknownName) : Text :=
  quoted unknown.name ++ " is not a valid ".toList ++ unknown.family

end UnknownName
end SkyRegion
