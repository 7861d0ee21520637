import ScalingTrials.Group

/-!
The trials of a controller: what is changed in a resource, how often its state may be read until it
is synced, and what the group must look like then.
-/

namespace ScalingTrials

/-- One step of a trial. A step without a change only waits and compares. -/
structure Step where
  description : String
  change : Option Json
  attempts : Nat
  expectation : Expectation

inductive Trial where
  | createDelete
  | updateCapacity
  | updateBounds
  | changeTags
  /-- Deletes the resource and waits until the group is gone. -/
  | delete
  deriving DecidableEq, Repr

namespace Trial

def all : List Trial := [createDelete, updateCapacity, updateBounds, changeTags, delete]

/-- What the names of its resources begin with. -/
def beginning : Trial → String
  | delete => "ack-test-asg-del"
  | _ => "ack-test-asg"

/-- Whether the trial ends with a deletion that has to be confirmed. -/
def confirmsDeletion : Trial → Bool
  | delete => true
  | _ => false

def syncAttempts : Nat := 3
def tagSyncAttempts : Nat := 10
def initialTagSyncAttempts : Nat := 30

/-- A change to what the resource asks for. -/
def specChange (members : List (String × Json)) : Json := .obj [("spec", .obj members)]

def tagKey : String := "new-tag-key"

/-- The change that leaves one tag. -/
def tagChange (value : String) (propagated : Bool) : Json :=
  specChange [("tags", .arr [(Tag.mk tagKey value propagated).toJson])]

def initialSync : Step := ⟨"initial sync", none, syncAttempts, .matching⟩

def steps : Trial → List Step
  | createDelete => [initialSync]
  | delete => [initialSync]
  | updateCapacity =>
    [initialSync,
      ⟨"update desired capacity", some (specChange [("desiredCapacity", .int 2)]), syncAttempts,
        .desired 2⟩]
  | updateBounds =>
    [initialSync,
      ⟨"update min and max size", some (specChange [("minSize", .int 1), ("maxSize", .int 5)]),
        syncAttempts, .bounds 1 5⟩]
  | changeTags =>
    [initialSync,
      ⟨"settle before tagging", none, initialTagSyncAttempts, .matching⟩,
      ⟨"add tag", some (tagChange "new-tag-value-1" true), tagSyncAttempts,
        .tags (.ofList [(tagKey, "new-tag-value-1")])⟩,
      ⟨"update tag value", some (tagChange "new-tag-value-2" true), tagSyncAttempts,
        .tags (.ofList [(tagKey, "new-tag-value-2")])⟩,
      ⟨"update propagateAtLaunch", some (tagChange "new-tag-value-2" false), tagSyncAttempts,
        .tag tagKey "new-tag-value-2" false⟩,
      ⟨"delete all tags", some (specChange [("tags", .arr [])]), tagSyncAttempts,
        .tags .empty⟩]

end Trial

end ScalingTrials
