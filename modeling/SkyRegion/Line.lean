import SkyRegion.Frame

/-! What a logical line is for. Lines that begin with a minus sign exclude a region and are not imported. -/

namespace SkyRegion

open Text

inductive LineKind where
  | blank
  | comment
  | excluded
  | style
  | frame
  | shape
  deriving DecidableEq

namespace LineKind

def name : LineKind → Text
  | .blank => "blank".toList
  | .comment => "comment".toList
  | .excluded => "excluded".toList
  | .style => "global".toList
  | .frame => "frame".toList
  | .shape => "shape".toList

/-- The word that announces style defaults counts wherever it stands in the line. -/
def ofLine (line : Text) : LineKind :=
  match line with
  | [] => .blank
  | '#' :: _ => .comment
  | '-' :: _ => .excluded
  | _ =>
    if holds "global".toList line then .style
    else if Frame.isDeclaration line then .frame
    else .shape

end LineKind
end SkyRegion
