import SkyRegion.Import.State
import SkyRegion.Text.Lines

/-! Imports of whole texts. Lines may come already split, or as one text that is split at line breaks and at
a delimiter. An import returns what it found in the order of the lines, unless something interrupts it. -/

namespace SkyRegion

open Image Text

structure ImportResult where
  regions : List Region
  issues : List Issue
  deriving DecidableEq

namespace ImportResult

def isClean (result : ImportResult) : Bool := result.issues.isEmpty

end ImportResult

def ImportState.result (state : ImportState) : ImportResult := ⟨state.regions, state.issues⟩

namespace Import

variable [UnitLibrary]

def importLines (initialFrame : Text) (lines : List LogicalLine) : Importing PUnit := do
  unless initialFrame.isEmpty do declare 0 initialFrame
  lines.forM fun line => importLine line.number line.text.trim

/-- Runs an import from the beginning and keeps its result only. -/
def start (fileId : Int) (work : Importing PUnit) : ExceptT Interruption Dialogue ImportResult :=
  ExceptT.mk <| (work.run.run { fileId }).bind fun (outcome, state) =>
    .done (outcome.map fun _ => state.result)

/-- Lines that are already split are numbered from one. -/
def ofLines (fileId : Int) (initialFrame : Text) (lines : List Text) :
    ExceptT Interruption Dialogue ImportResult :=
  start fileId (importLines initialFrame ((lines.zipIdx 1).map fun (line, number) => ⟨number, line⟩))

def ofText (fileId : Int) (delimiter text : Text) : ExceptT Interruption Dialogue ImportResult :=
  match logicalLines? delimiter text with
  | some lines => start fileId (importLines [] lines)
  | none => throw .emptyDelimiter

end Import
end SkyRegion
