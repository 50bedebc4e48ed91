import SkyRegion.Definition.Basic
import SkyRegion.Line
import SkyRegion.Shape.Placing

/-! The import, line by line. A frame declaration holds until the next one; after a declaration that is not
supported, shapes are passed over until a supported one comes. The frame of the image is asked for when the
first sky frame is declared, and again only while it has no name. -/

namespace SkyRegion

open Image Text

structure ImportState where
  fileId : Int
  pixelMode : Bool := true
  frame : Frame := .pixel
  imageFrame : Text := []
  accepting : Bool := true
  regions : List Region := []
  issues : List Issue := []
  deriving DecidableEq

/-- The state after a line, also when the line interrupts the import. -/
abbrev Importing (α : Type) := ExceptT Interruption (StateT ImportState Dialogue) α

namespace ImportState

def mode (state : ImportState) : PositionMode := if state.pixelMode then .pixels else .sky state.frame

def addIssue (line : Int) (shape : Text) (complaint : Complaint) (state : ImportState) : ImportState :=
  { state with issues := state.issues ++ [.ofComplaint line shape complaint] }

def addRegion (region : Region) (state : ImportState) : ImportState :=
  { state with regions := state.regions ++ [region] }

end ImportState

namespace Import

/-- Asks for the frame of the image unless it is already known. -/
def learnFrame : Importing PUnit := fun state =>
  if state.imageFrame.isEmpty then
    frameName.run.bind fun
      | .ok name => .done (.ok ⟨⟩, { state with imageFrame := name })
      | .error fault => .done (.error (.image fault), state)
  else .done (.ok ⟨⟩, state)

/-- Applies a declaration and says whether its frame is supported. -/
def declareFrame (line : Text) : Importing Bool := do
  match Frame.ofKeyword (Frame.keywordOf line) with
  | .unsupported =>
    modify fun state => { state with frame := .unsupported, pixelMode := false, accepting := false }
    return false
  | .pixel =>
    modify fun state => { state with frame := .pixel, pixelMode := true, accepting := true }
    return true
  | frame =>
    modify fun state => { state with frame, pixelMode := false, accepting := true }
    learnFrame
    return true

def declare (number : Int) (line : Text) : Importing PUnit := do
  unless ← declareFrame line do
    let keyword := Frame.keywordOf line
    modify (·.addIssue number keyword (.unsupportedFrame keyword))

/-- The first word without one leading sign. -/
def withoutSign : Text → Text
  | '+' :: rest => rest
  | '-' :: rest => rest
  | word => word

def settle (number : Int) (keyword : ShapeKeyword) (result : Except Setback Region) : Importing PUnit :=
  match result with
  | .ok region => modify (·.addRegion region)
  | .error (.complaint complaint) => modify (·.addIssue number keyword.name complaint)
  | .error (.interruption interruption) => throw interruption

variable [UnitLibrary]

/-- A line that no shape accepts is ignored. -/
def importShape (number : Int) (line : Text) : Importing PUnit := do
  let definition := Definition.ofText line
  match definition.tokens with
  | [] => return
  | first :: arguments =>
    let word := withoutSign first
    match ShapeKeyword.ofLine? word arguments with
    | none => return
    | some keyword =>
      let state ← get
      let label := (definition.properties.get? "text".toList).getD []
      let placing : Placing Region := do
        (← Shape.read state.mode keyword word arguments).place state.mode label state.fileId
      settle number keyword (← ExceptT.lift (StateT.lift placing.run))

def importLine (number : Int) (line : Text) : Importing PUnit := do
  match LineKind.ofLine line with
  | .frame => declare number line
  | .shape => if (← get).accepting then importShape number line
  | _ => return

end Import
end SkyRegion
