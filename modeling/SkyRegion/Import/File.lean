import SkyRegion.Import.Basic
import SkyRegion.Text.Utf8

/-! Imports of files, whose bytes may not be there or may not be text. -/

namespace SkyRegion.Import

open Image Text

/-- Text of the bytes of a file, or why there is none. -/
def decodeFile (bytes : List UInt8) : Except Text Text :=
  ((Utf8.decode bytes).map unifyBreaks).mapError (·.message)

/-- Imports the content of a file, given as bytes or as the reason why it cannot be had. -/
def ofFile [UnitLibrary] (fileId : Int) (delimiter file : Text) (content : Except Text (List UInt8)) :
    ExceptT Interruption Dialogue ImportResult :=
  match content >>= decodeFile with
  | .ok text => ofText fileId delimiter text
  | .error reason => throw (.unreadable file reason)

end SkyRegion.Import
