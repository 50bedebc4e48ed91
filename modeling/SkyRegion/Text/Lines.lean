import SkyRegion.Text.Blank

/-! Physical and logical lines. A physical line ends at any line break, and a carriage return with the
line feed after it is one break; a text that ends with a break has no empty line after it. A logical line
is a trimmed piece of a physical line between delimiters and keeps the number of its physical line. -/

namespace SkyRegion.Text

def lineBreakRanges : List (Nat × Nat) := [(0xA, 0xD), (0x1C, 0x1E), (0x85, 0x85), (0x2028, 0x2029)]

def isLineBreak (c : Char) : Bool := inRanges lineBreakRanges c.toNat

/-- Puts a character at the front of the first piece. -/
def consFirst (c : Char) : List Text → List Text
  | [] => [[c]]
  | piece :: pieces => (c :: piece) :: pieces

def physicalLines : Text → List Text
  | [] => []
  | '\r' :: '\n' :: rest => [] :: physicalLines rest
  | c :: rest => if isLineBreak c then [] :: physicalLines rest else consFirst c (physicalLines rest)

/-- Pieces between the characters of a class, the empty ones included. -/
def fields (isMark : Char → Bool) : Text → List Text
  | [] => [[]]
  | c :: rest => if isMark c then [] :: fields isMark rest else consFirst c (fields isMark rest)

/-- Pieces between occurrences of a delimiter, searched from the left without overlap. The number
counts the characters of the current occurrence that are still to be passed over. -/
def piecesAfter (delimiter : Text) : Nat → Text → List Text
  | _, [] => [[]]
  | pending + 1, _ :: rest => piecesAfter delimiter pending rest
  | 0, c :: rest =>
    if delimiter.isPrefixOf (c :: rest) then [] :: piecesAfter delimiter (delimiter.length - 1) rest
    else consFirst c (piecesAfter delimiter 0 rest)

def pieces (delimiter text : Text) : List Text := piecesAfter delimiter 0 text

structure LogicalLine where
  number : Nat
  text : Text
  deriving DecidableEq

def numberedPieces (delimiter : Text) (number : Nat) (line : Text) : List LogicalLine :=
  (pieces delimiter line).map fun piece => ⟨number, piece.trim⟩

/-- Logical lines in order. An empty delimiter splits nothing, so it is refused as soon as there is a
line to split. -/
def logicalLines? (delimiter text : Text) : Option (List LogicalLine) :=
  match physicalLines text with
  | [] => some []
  | lines =>
    if delimiter.isEmpty then none
    else some ((lines.zipIdx 1).flatMap fun (line, number) => numberedPieces delimiter number line)

end SkyRegion.Text
