import SkyRegion.Text.Lines

/-! Names of files. Repeated separators and steps that stay where they are do not count. -/

namespace SkyRegion.FileName

open Text

def steps (path : Text) : List Text :=
  (fields (· = '/') path).filter fun step => !step.isEmpty && step ≠ ['.']

/-- The path without what does not count. -/
def plain (path : Text) : Text :=
  let root := if path.head? = some '/' then ['/'] else []
  let rest := ['/'].intercalate (steps path)
  if root.isEmpty && rest.isEmpty then ['.'] else root ++ rest

/-- The last step of a path, if it goes anywhere. -/
def last (path : Text) : Text := (steps path).getLastD []

end SkyRegion.FileName
