import SkyRegion.Document

/-! Style defaults for every region of a file, written on one line of its header. -/

namespace SkyRegion

open Text

structure Style where
  color : Text := "green".toList
  font : Text := "helvetica 10 normal roman".toList
  deletable : Bool := true
  editable : Bool := true
  fixed : Bool := false
  highlighted : Bool := true
  included : Bool := true
  movable : Bool := true
  selectable : Bool := true
  deriving DecidableEq

namespace Style

def flag (value : Bool) : Text := if value then ['1'] else ['0']

def line (style : Style) : Text :=
  "global color=".toList ++ style.color ++ " delete=".toList ++ flag style.deletable ++
    " edit=".toList ++ flag style.editable ++ " fixed=".toList ++ flag style.fixed ++
    " font=\"".toList ++ style.font ++ "\" highlite=".toList ++ flag style.highlighted ++
    " include=".toList ++ flag style.included ++ " move=".toList ++ flag style.movable ++
    " select=".toList ++ flag style.selectable

inductive FieldFault where
  | notText
  | emptyText
  | notFlag
  | unknownFlag
  deriving DecidableEq

namespace FieldFault

def name : FieldFault → Text
  | .notText => "string_type".toList
  | .emptyText => "string_too_short".toList
  | .notFlag => "bool_type".toList
  | .unknownFlag => "bool_parsing".toList

end FieldFault

def readText : Document → Except FieldFault Text
  | .text [] => .error .emptyText
  | .text value => .ok value
  | _ => .error .notText

def offWords : List Text :=
  ["0".toList, "off".toList, "f".toList, "false".toList, "n".toList, "no".toList]

def onWords : List Text :=
  ["1".toList, "on".toList, "t".toList, "true".toList, "y".toList, "yes".toList]

/-- Words are compared without regard to the case of plain letters. -/
def readFlag : Document → Except FieldFault Bool
  | .bool value => .ok value
  | .integer 0 => .ok false
  | .integer 1 => .ok true
  | .integer _ => .error .unknownFlag
  | .number value =>
    if value.same 0 then .ok false else if value.same 1 then .ok true else .error .notFlag
  | .text value =>
    let word := value.map Char.toLower
    if offWords.contains word then .ok false
    else if onWords.contains word then .ok true
    else .error .unknownFlag
  | _ => .error .notFlag

/-- A field that is missing takes its default; one that cannot be read adds a fault. -/
def readField (fields : List (Text × Document)) (name : String) (read : Document → Except FieldFault α)
    (default : α) : StateM (List (Text × FieldFault)) α := do
  match (Document.field? fields name.toList).map read with
  | none => return default
  | some (.ok value) => return value
  | some (.error fault) =>
    modify (· ++ [(name.toList, fault)])
    return default

/-- Every faulty field is reported, in the order of the fields. -/
def ofDocument (fields : List (Text × Document)) : Except (List (Text × FieldFault)) Style :=
  let base : Style := {}
  let reading : StateM (List (Text × FieldFault)) Style := do
    let color ← readField fields "color" readText base.color
    let font ← readField fields "font" readText base.font
    let deletable ← readField fields "delete_region" readFlag base.deletable
    let editable ← readField fields "edit_region" readFlag base.editable
    let fixed ← readField fields "fixed_region" readFlag base.fixed
    let highlighted ← readField fields "highlite_region" readFlag base.highlighted
    let included ← readField fields "include_region" readFlag base.included
    let movable ← readField fields "move_region" readFlag base.movable
    let selectable ← readField fields "select_region" readFlag base.selectable
    return ⟨color, font, deletable, editable, fixed, highlighted, included, movable, selectable⟩
  match reading.run [] with
  | (style, []) => .ok style
  | (_, faults) => .error faults

/-- The defaults with a color and a font of one's own. -/
def plain (color font : Text) : Except (List (Text × FieldFault)) Style :=
  ofDocument [("color".toList, .text color), ("font".toList, .text font)]

end Style
end SkyRegion
