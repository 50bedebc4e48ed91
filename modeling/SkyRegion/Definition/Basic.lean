import SkyRegion.Definition.Property
import SkyRegion.Text.Lines

/-! A region definition: the tokens before the property mark, and the properties after it. Tokens are
separated by blanks, commas and parentheses in any mixture. -/

namespace SkyRegion

open Text

structure Definition where
  tokens : List Text
  properties : Properties
  deriving DecidableEq

namespace Definition

def isSeparator (c : Char) : Bool := isBlank c || c = ',' || c = '(' || c = ')'

def tokensOf (text : Text) : List Text := (fields isSeparator text).filter (!·.isEmpty)

def ofText (text : Text) : Definition :=
  let (shape, properties) := text.cutAt '#'
  ⟨tokensOf shape, .ofText properties⟩

end Definition
end SkyRegion
