import SkyRegion.Text.Printable

/-! Quoted text, as messages show a refused value. Single quotes enclose it, unless it holds a single
quote and no double quote. -/

namespace SkyRegion.Text

def hex (width value : Nat) : Text :=
  let digits := Nat.toDigits 16 value
  List.replicate (width - digits.length) '0' ++ digits

def escape (quote c : Char) : Text :=
  if c = quote || c = '\\' then ['\\', c]
  else if c = '\n' then ['\\', 'n']
  else if c = '\r' then ['\\', 'r']
  else if c = '\t' then ['\\', 't']
  else if isPrintable c then [c]
  else if c.toNat < 0x100 then '\\' :: 'x' :: hex 2 c.toNat
  else if c.toNat < 0x10000 then '\\' :: 'u' :: hex 4 c.toNat
  else '\\' :: 'U' :: hex 8 c.toNat

def quoteMark (text : Text) : Char := if text.contains '\'' && !text.contains '"' then '"' else '\''

def quoted (text : Text) : Text :=
  let quote := quoteMark text
  quote :: text.flatMap (escape quote) ++ [quote]

end SkyRegion.Text
