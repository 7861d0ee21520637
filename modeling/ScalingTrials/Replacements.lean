import ScalingTrials.Descriptor.Record
import ScalingTrials.Dictionary

/-!
The values that manifests are filled with. They come from a recorded descriptor or, where none can
be used, from fixed defaults; never from both.
-/

namespace ScalingTrials

inductive Replacements.Origin where
  | recorded
  | fallback
  deriving DecidableEq, Repr

structure Replacements where
  origin : Replacements.Origin
  values : Dictionary
  deriving DecidableEq

namespace Replacements

def templateIdKey : String := "LAUNCH_TEMPLATE_ID"
def templateVersionKey : String := "LAUNCH_TEMPLATE_VERSION"
def zoneKey : String := "AVAILABILITY_ZONE_1"
def subnetsKey : String := "VPC_ZONE_IDENTIFIER"

/-- The key of the name under which a group is made. -/
def groupNameKey : String := "ASG_NAME"

/-- The version of a launch template that is always its newest. -/
def latestVersion : String := "$Latest"

/-- The zone that is used where none is known. -/
def defaultZone : String := "us-west-2a"

def valuesOf (templateId zone subnets : String) : Dictionary :=
  .ofList [(templateIdKey, templateId), (templateVersionKey, latestVersion), (zoneKey, zone),
    (subnetsKey, subnets)]

def ofDescriptor (d : Descriptor) : Replacements :=
  ⟨.recorded, valuesOf d.templateId d.zone d.subnets⟩

def defaults : Replacements := ⟨.fallback, valuesOf "" defaultZone ""⟩

/-- The values that the record of a directory gives, or the defaults. -/
def resolve (fs : Files) (dir : String) : Replacements :=
  match Descriptor.load fs dir with
  | .ok d => ofDescriptor d
  | .error _ => defaults

end Replacements

end ScalingTrials
