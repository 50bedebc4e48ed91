import SkyRegion.FileName
import SkyRegion.Report
import SkyRegion.Writer.Basic

/-! A writer in use. It is called time and again, and a call that fails leaves the writer and its image to the
next call. Files are touched by saving alone. -/

namespace SkyRegion.Writer

open Image Text

/-- Faults of the export itself have a code; others are passed on as they came. -/
def Fault.code? : Fault → Option Text
  | .conversion .. => some "REGION_EXPORT_CONVERSION".toList
  | .wrongCount .. => some "REGION_EXPORT_INVALID".toList
  | .empty => some "REGION_EXPORT_EMPTY".toList
  | .unwritable .. => some FailureFamily.exporting.code
  | _ => none

def Fault.report? (fault : Fault) : Option Report :=
  fault.code?.map (.make .exporting fault.message [] ·)

inductive Call where
  | region (region : Region)
  | quantities (kind : RegionKind) (quantities : List Quantity) (angle : Number) (name : Text)
  | lines
  | save (path : Text)
  deriving DecidableEq

inductive Answer where
  | added
  | lines (lines : List Text)
  | saved
  deriving DecidableEq

/-- The writer and the files outlive a call that fails. -/
abbrev Calling (Files α : Type) := ExceptT Fault (StateT (Writer × Files) Dialogue) α

variable {Files : Type}

/-- A writer takes the place of the one before once it is complete. -/
def replace (work : Writer → Writing Writer) : Calling Files Answer := do
  let (writer, files) ← get
  let next ← ExceptT.mk (StateT.lift (work writer).run)
  set (next, files)
  return .added

/-- Carries out a call, given a way to write bytes to the file at a path that may fail for a reason. -/
def perform (write : Text → List UInt8 → StateM Files (Option Text)) : Call → Calling Files Answer
  | .region region => replace (·.addRegion region)
  | .quantities kind quantities angle name =>
    replace fun writer => liftM (writer.addQuantities kind quantities angle name)
  | .lines => do
    let (writer, _) ← get
    return .lines (← writer.finished)
  | .save path => do
    let (writer, files) ← get
    let saved := (writer.save (FileName.last path) (write path)).run files
    set (writer, saved.2)
    let _ ← saved.1
    return .saved

end SkyRegion.Writer
