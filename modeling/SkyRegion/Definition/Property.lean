import SkyRegion.Text.Blank
import SkyRegion.Text.Word

/-! Properties after the mark of a region definition: a key, an equals sign and a value, which may be
braced, quoted or bare. Text that forms no such pair is passed over. -/

namespace SkyRegion

open Text

structure Property where
  key : Text
  value : Text
  deriving DecidableEq

namespace Property

/-- The text up to a closing mark, and the text after the mark. -/
def enclosed? (closing : Char) : Text → Option (Text × Text)
  | [] => none
  | c :: rest =>
    if c = closing then some ([], rest)
    else (enclosed? closing rest).map fun (inside, after) => (c :: inside, after)

def bare? (text : Text) : Option (Text × Text) :=
  let value := text.takeWhile (!isBlank ·)
  if value.isEmpty then none else some (value, text.dropWhile (!isBlank ·))

/-- A value that opens and never closes is read as a bare one. -/
def value? (text : Text) : Option (Text × Text) :=
  match text with
  | '{' :: rest => enclosed? '}' rest <|> bare? text
  | '"' :: rest => enclosed? '"' rest <|> bare? text
  | '\'' :: rest => enclosed? '\'' rest <|> bare? text
  | _ => bare? text

/-- The property at the front of a text. -/
def first? (text : Text) : Option (Property × Text) :=
  let key := text.takeWhile isWord
  if key.isEmpty then none
  else
    match (text.dropWhile isWord).dropWhile isBlank with
    | '=' :: rest => (value? (rest.dropWhile isBlank)).map fun (value, rest) => (⟨key, value⟩, rest)
    | _ => none

/-- All properties, searched from the left without overlap. The number counts the characters of the
current one that are still to be passed over. -/
def listAfter : Nat → Text → List Property
  | _, [] => []
  | pending + 1, _ :: rest => listAfter pending rest
  | 0, c :: rest =>
    match first? (c :: rest) with
    | some (property, after) => property :: listAfter (rest.length - after.length) rest
    | none => listAfter 0 rest

end Property

/-- Properties by key. A key that is repeated keeps its place and takes the last value. -/
abbrev Properties := List Property

namespace Properties

def put (properties : Properties) (property : Property) : Properties :=
  if properties.any (·.key = property.key) then
    properties.map fun earlier => if earlier.key = property.key then property else earlier
  else properties ++ [property]

def ofText (text : Text) : Properties := (Property.listAfter 0 text).foldl put []

def get? (properties : Properties) (key : Text) : Option Text :=
  (properties.find? (·.key = key)).map (·.value)

end Properties
end SkyRegion
