import SkyRegion.Image.Query
import SkyRegion.Issue
import SkyRegion.Quantity.Sexagesimal
import SkyRegion.Region.Basic

/-! Why a line yields no region. A complaint costs the line and nothing else; an interruption ends the
whole import. -/

namespace SkyRegion

inductive Interruption where
  | image (fault : Image.Fault)
  | reading (fault : ReadingFault)
  | region (fault : Region.CountFault)
  | emptyDelimiter
  | unreadable (file reason : Text)
  deriving DecidableEq

inductive Setback where
  | complaint (complaint : Complaint)
  | interruption (interruption : Interruption)
  deriving DecidableEq

end SkyRegion
