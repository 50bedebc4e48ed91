/-! Text is a list of characters, so that every reader in the library is a structural recursion. -/

namespace SkyRegion

abbrev Text := List Char

namespace Text

/-- Whether `part` stands somewhere in `text`. -/
def holds (part : Text) : Text → Bool
  | [] => part.isEmpty
  | c :: rest => part.isPrefixOf (c :: rest) || holds part rest

/-- The text before the first `mark`, and the text after it when there is one. -/
def cutAt (mark : Char) : Text → Text × Text
  | [] => ([], [])
  | c :: rest =>
    if c = mark then ([], rest)
    else let (before, after) := cutAt mark rest; (c :: before, after)

/-- Decimal text of a natural number, without leading zeros. -/
def ofNat (n : Nat) : Text := Nat.toDigits 10 n

def ofInt : Int → Text
  | .ofNat n => ofNat n
  | .negSucc n => '-' :: ofNat (n + 1)

end Text
end SkyRegion
