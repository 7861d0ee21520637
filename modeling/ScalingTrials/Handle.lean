import ScalingTrials.Text.Capital

/-!
Handles: where a resource is found at the cluster.
-/

namespace ScalingTrials

structure Handle where
  group : String
  version : String
  plural : String
  name : String
  scope : String
  deriving DecidableEq, Repr

namespace Handle

def scalingGroup : String := "autoscaling.services.k8s.aws"
def scalingVersion : String := "v1alpha1"
def scalingPlural : String := "autoscalinggroups"
def scalingKind : String := "AutoScalingGroup"
def defaultScope : String := "default"

/-- The handle of a scaling group in the default namespace. -/
def ofScalingGroup (name : String) : Handle :=
  ⟨scalingGroup, scalingVersion, scalingPlural, name, defaultScope⟩

def within (h : Handle) (scope : String) : Handle := { h with scope := scope }

/-- The group and the version, or the version alone in the core group. -/
def apiVersion (h : Handle) : String :=
  if h.group = "" then h.version else h.group ++ "/" ++ h.version

/-- A plural without the `s` at its end. -/
def singular (plural : List Char) : List Char :=
  if plural.getLast? = some 's' then plural.dropLast else plural

/-- The kind that is served under the plural. -/
def kind (h : Handle) : String :=
  if h.plural = scalingPlural then scalingKind
  else Text.capitalize (String.ofList (singular h.plural.toList))

def display (h : Handle) : String :=
  h.plural ++ "." ++ h.group ++ "/" ++ h.version ++ " '" ++ h.scope ++ "/" ++ h.name ++ "'"

end Handle

end ScalingTrials
