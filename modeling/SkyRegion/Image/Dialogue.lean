import SkyRegion.Image.Query

/-! Work that puts questions to an image. The questions are data and every possible reply is provided for,
so what is asked, and in which order, can be stated without an image. -/

namespace SkyRegion

/-- An image answers in the light of everything it has been asked before. -/
structure Image where
  answer : List Image.Query → (query : Image.Query) → Except Image.Fault query.Reply

namespace Image

inductive Dialogue (α : Type) where
  | done (value : α)
  | ask (query : Query) (next : Except Fault query.Reply → Dialogue α)

namespace Dialogue

def bind : Dialogue α → (α → Dialogue β) → Dialogue β
  | .done value, next => next value
  | .ask query rest, next => .ask query fun reply => (rest reply).bind next

instance : Monad Dialogue where
  pure := done
  bind := bind

/-- The result of a dialogue with an image, and all that has been asked by then. -/
def run (image : Image) : List Query → Dialogue α → α × List Query
  | asked, .done value => (value, asked)
  | asked, .ask query next => (next (image.answer asked query)).run image (asked ++ [query])

end Dialogue

/-- A single question, whose failure is a failure of the work. -/
def request (query : Query) : ExceptT Fault Dialogue query.Reply := ExceptT.mk (.ask query .done)

/-- The name of the frame of an image. Without a sky frame an image is linear or merely physical. -/
def frameName : ExceptT Fault Dialogue Text := do
  if ← request .hasSkyFrame then request .skyFrameName
  else if ← request .hasLinearFrame then return "linear".toList
  else return "physical".toList

end Image
end SkyRegion
