import SkyRegion.Document
import SkyRegion.Issue

/-! Failures as they are reported: where they belong, in which stage of the work they arose, a code for
programs and a message for people. -/

namespace SkyRegion

open Text

inductive FailureFamily where
  | general
  | validation
  | file
  | exporting
  | setting
  | line
  deriving DecidableEq

namespace FailureFamily

/-- Settings and lines have no category of their own. -/
def category : FailureFamily → Text
  | .validation => "validation".toList
  | .file => "file".toList
  | .exporting => "export".toList
  | _ => "region".toList

def stage : FailureFamily → Text
  | .general => []
  | .validation => "model".toList
  | .file => "import".toList
  | .exporting => "export".toList
  | .setting => "config".toList
  | .line => "import".toList

def code : FailureFamily → Text
  | .general => []
  | .validation => "REGION_INVALID".toList
  | .file => "REGION_FILE_UNREADABLE".toList
  | .exporting => "REGION_EXPORT_FAILED".toList
  | .setting => "CONFIG_VALIDATION_FAILED".toList
  | .line => "REGION_LINE_REJECTED".toList

end FailureFamily

structure Report where
  category : Text
  code : Text
  stage : Text
  message : Text
  deriving DecidableEq

namespace Report

/-- A stage or code that is not given is that of the family. -/
def make (family : FailureFamily) (message : Text) (stage code : Text := []) : Report :=
  ⟨family.category, if code.isEmpty then family.code else code,
    if stage.isEmpty then family.stage else stage, message⟩

/-- Lines are reported under the kind of their issue. -/
def ofLine (kind : IssueKind) (message : Text) : Report :=
  .make .line message [] ("REGION_".toList ++ kind.name.map Char.toUpper)

def ofSetting (key : Text) (value : Document) (requirement : Text) : Report :=
  let shown := key ++ '=' :: value.describe
  .make .setting ("Invalid configuration ".toList ++ shown ++ ": ".toList ++ requirement)

end Report
end SkyRegion
