import ScalingTrials.Text.Blank
import ScalingTrials.Text.Split

/-!
What preparing an account leaves behind: a launch template, a zone and the subnets to scale in.
-/

namespace ScalingTrials

/-- `subnets` holds the subnet ids, joined by commas. -/
structure Descriptor where
  templateId : String
  templateName : String
  zone : String
  subnets : String
  deriving DecidableEq, Repr

namespace Descriptor

def ofSubnetIds (templateId templateName zone : String) (ids : List String) : Descriptor :=
  ⟨templateId, templateName, zone, String.ofList (Text.join ',' (ids.map String.toList))⟩

/-- The ids between the commas, without white space around them; empty ones do not count. -/
def subnetIds (d : Descriptor) : List String :=
  (((Text.split ',' d.subnets.toList).map Text.trimBlanks).filter (· ≠ [])).map String.ofList

end Descriptor

end ScalingTrials
