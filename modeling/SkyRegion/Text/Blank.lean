import SkyRegion.Text.CodeRange

/-! Blank characters and trimming. The four information separators are blank here, as are the line
breaks and the spaces of every width. -/

namespace SkyRegion.Text

def blankRanges : List (Nat × Nat) :=
  [(0x9, 0xD), (0x1C, 0x20), (0x85, 0x85), (0xA0, 0xA0), (0x1680, 0x1680), (0x2000, 0x200A),
   (0x2028, 0x2029), (0x202F, 0x202F), (0x205F, 0x205F), (0x3000, 0x3000)]

def isBlank (c : Char) : Bool := inRanges blankRanges c.toNat

/-- Removes from both ends every character of a class. -/
def trimWhere (drop : Char → Bool) (text : Text) : Text :=
  ((text.dropWhile drop).reverse.dropWhile drop).reverse

def trim (text : Text) : Text := trimWhere isBlank text

end SkyRegion.Text
