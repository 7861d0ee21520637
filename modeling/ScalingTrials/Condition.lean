import ScalingTrials.Json
import ScalingTrials.Poll

/-!
Conditions that a controller reports in the status of a resource.
-/

namespace ScalingTrials

/-- A condition by type, the status it should have, and how long to wait for it. -/
structure Condition where
  kind : String
  status : String
  poller : Poller
  deriving DecidableEq, Repr

namespace Condition

/-- The condition that a resource and the cloud agree. -/
def syncedKind : String := "ACK.ResourceSynced"
def trueStatus : String := "True"

def synced (attempts : Nat) : Condition := ⟨syncedKind, trueStatus, .sync attempts⟩

/-- The first reported condition of a type. -/
def find? (resource : Json) (kind : String) : Option Json := do
  let status ← resource.get? "status"
  let conditions ← status.get? "conditions"
  let items ← conditions.asArray?
  items.find? fun c => (c.get? "type").bind Json.asString? == some kind

/-- The status of a reported condition. -/
def statusOf? (condition : Json) : Option String := (condition.get? "status").bind Json.asString?

/-- Whether a resource reports the condition with the wanted status. -/
def holds (c : Condition) (resource : Json) : Bool :=
  (find? resource c.kind).bind statusOf? == some c.status

end Condition

end ScalingTrials
