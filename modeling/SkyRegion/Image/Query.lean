import SkyRegion.Frame
import SkyRegion.Quantity.Basic

/-! What may be asked of the image that regions belong to. An image places positions of the sky on its
pixels and back, and names its frame. It can fail to answer any question. -/

namespace SkyRegion.Image

inductive Axis where
  | horizontal
  | vertical
  deriving DecidableEq

namespace Axis

def index : Axis → Nat
  | .horizontal => 0
  | .vertical => 1

end Axis

inductive Query where
  | hasSkyFrame
  | skyFrameName
  | hasLinearFrame
  | toPixel (frame : Frame) (x y : Quantity)
  | toPixelLength (length : Quantity) (axis : Axis)
  | toWorld (x y : Number)
  | toWorldLength (length : Number) (axis : Axis)
  deriving DecidableEq

namespace Query

/-- A position that the image cannot place has no pixel. -/
@[reducible] def Reply : Query → Type
  | .hasSkyFrame => Bool
  | .skyFrameName => Text
  | .hasLinearFrame => Bool
  | .toPixel .. => Option (Number × Number)
  | .toPixelLength .. => Number
  | .toWorld .. => Quantity × Quantity
  | .toWorldLength .. => Quantity

end Query

inductive Fault where
  | incompatible (source target : Unit)
  | refused (reason : Text)
  | unavailable (reason : Text)
  | noAxis
  | noPosition
  deriving DecidableEq

namespace Fault

/-- Refusals concern the values asked about, so that the next question may still be answered. -/
def isRefusal : Fault → Bool
  | .incompatible .. => true
  | .refused _ => true
  | _ => false

def message : Fault → Text
  | .incompatible source target => source.mismatch target
  | .refused reason => reason
  | .unavailable reason => reason
  | .noAxis => "the image has no such axis".toList
  | .noPosition => "the image has no position there".toList

end Fault
end SkyRegion.Image
