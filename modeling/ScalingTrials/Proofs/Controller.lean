import Mathlib.Logic.Function.Basic
import ScalingTrials.Proofs.Lag
import ScalingTrials.Site
import ScalingTrials.Trial

/-! # A controller with its cloud

A cluster whose controller takes its time, and the cloud that it works on. A change of a
resource is taken over once the resource has been read often enough; a group disappears once
it has been described often enough after its resource was deleted. -/

namespace ScalingTrials

namespace Json

/-- The members without those of a key. -/
def removeMember (k : String) (members : List (String × Json)) : List (String × Json) :=
  members.filter fun m => m.1 ≠ k

mutual

/-- A value changed by another: members are changed one by one, and all else is replaced. -/
def merge : Json → Json → Json
  | target, .obj changes =>
    match target with
    | .obj members => .obj (mergeMembers members changes)
    | _ => .obj changes
  | _, change => change

/-- Members changed in order by others; null takes a member away. -/
def mergeMembers (members : List (String × Json)) : List (String × Json) → List (String × Json)
  | [] => members
  | (k, .null) :: rest => mergeMembers (removeMember k members) rest
  | (k, change) :: rest =>
    mergeMembers (setMember k (merge ((members.lookup k).getD .null) change) members) rest

end

end Json

open Site (Ask)

/-- What the cluster and the cloud hold, by the names of resources and of groups. -/
structure World where
  objects : String → Option Json
  /-- How many readings of a changed resource are left before its controller takes it over. -/
  pending : String → Option Nat
  groups : String → Option Group
  /-- How many descriptions are left of a group whose resource was deleted. -/
  deleting : String → Option Nat
  syncLag : Nat
  deletionLag : Nat
  /-- Whether the controller has stopped. -/
  stuck : Bool

namespace World

/-- A world without resources and groups. -/
def start (syncLag deletionLag : Nat) : World where
  objects := fun _ => none
  pending := fun _ => none
  groups := fun _ => none
  deleting := fun _ => none
  syncLag := syncLag
  deletionLag := deletionLag
  stuck := false

def ownerAccount : String := "111122223333"

/-- The status of a resource with its condition. -/
def syncStatus (status : String) : Json :=
  .obj [("ackResourceMetadata", .obj [("ownerAccountID", .str ownerAccount)]),
    ("conditions", .arr [.obj [("type", .str Condition.syncedKind), ("status", .str status)]])]

/-- A resource with its status set. Only an object or nothing can be given one. -/
def withStatus (status : String) : Json → Json
  | .obj members => .obj (Json.setMember "status" (syncStatus status) members)
  | .null => .obj [("status", syncStatus status)]
  | j => j

def falseStatus : String := "False"

/-- What a resource asks for. -/
def specOf (object : Json) : Json := (object.get? "spec").getD .null

/-- A size as the cloud takes it over. -/
def sizeOf? (spec : Json) (member : String) : Option Int32 :=
  ((spec.get? member).bind Json.asInt64?).map Int32.ofInt

def controllerVersion : String := "autoscaling-v0.0.0"

/-- The tags that the controller puts on every group. -/
def ownTags (scope : String) : List Tag :=
  [⟨Tag.controllerVersionKey, controllerVersion, false⟩, ⟨Tag.namespaceKey, scope, false⟩]

/-- The tags that a resource asks for, as far as they are tags. -/
def userTags (spec : Json) : List Tag :=
  (((spec.get? "tags").bind Json.asArray?).getD []).filterMap fun j => (Tag.ofJson j).toOption

/-- The group that a resource asks for, unless the cloud would not accept its sizes. -/
def project (spec : Json) (scope : String) : Option Group :=
  let min := (sizeOf? spec "minSize").getD 0
  let max := (sizeOf? spec "maxSize").getD 0
  let desired := (sizeOf? spec "desiredCapacity").getD min
  if min ≤ desired ∧ desired ≤ max then
    some ⟨((spec.get? "autoScalingGroupName").bind Json.asString?).getD "", min, max, desired,
      ownTags scope ++ userTags spec⟩
  else none

/-- The readings that are left after a change, unless the controller has stopped. -/
def delay (w : World) (name : String) : String → Option Nat :=
  if w.stuck then w.pending else Function.update w.pending name (some w.syncLag)

def create (w : World) (h : Handle) (body : Json) : Except Site.Error Json × World :=
  (.ok body,
    { w with
      objects := Function.update w.objects h.name (some body)
      pending := w.delay h.name })

/-- The controller takes over what a resource asks for. -/
def takeOver (w : World) (h : Handle) (object : Json) : World :=
  match project (specOf object) h.scope with
  | some g =>
    { w with
      objects := Function.update w.objects h.name (some (withStatus Condition.trueStatus object))
      groups := Function.update w.groups g.name (some g) }
  | none =>
    { w with
      objects := Function.update w.objects h.name (some (withStatus falseStatus object)) }

/-- What the controller does when a resource is read. -/
def reconcile (w : World) (h : Handle) : World :=
  match w.pending h.name with
  | none => w
  | some (left + 1) => { w with pending := Function.update w.pending h.name (some left) }
  | some 0 =>
    let w := { w with pending := Function.update w.pending h.name none }
    match w.objects h.name with
    | some object => w.takeOver h object
    | none => w

def get (w : World) (h : Handle) : Except Site.Error Json × World :=
  let w := w.reconcile h
  match w.objects h.name with
  | some object => (.ok object, w)
  | none => (.error (.notFound h.display), w)

def patch (w : World) (h : Handle) (change : Json) : Except Site.Error Json × World :=
  match w.objects h.name with
  | some object =>
    let object := withStatus falseStatus (object.merge change)
    (.ok object,
      { w with
        objects := Function.update w.objects h.name (some object)
        pending := w.delay h.name })
  | none => (.error (.notFound h.display), w)

/-- The descriptions that are left of groups once a resource is deleted. -/
def deletionsWith (w : World) (object : Json) : String → Option Nat :=
  match ((specOf object).get? "autoScalingGroupName").bind Json.asString? with
  | some name => Function.update w.deleting name (some w.deletionLag)
  | none => w.deleting

def delete (w : World) (h : Handle) : Except Site.Error Unit × World :=
  match w.objects h.name with
  | some object =>
    (.ok (),
      { w with
        objects := Function.update w.objects h.name none
        pending := Function.update w.pending h.name none
        deleting := w.deletionsWith object })
  | none => (.error (.notFound h.display), w)

def describe (w : World) (name : String) : Except Cloud.Error (List Group) × World :=
  let w :=
    match w.deleting name with
    | none => w
    | some (left + 1) => { w with deleting := Function.update w.deleting name (some left) }
    | some 0 =>
      { w with
        deleting := Function.update w.deleting name none
        groups := Function.update w.groups name none }
  (.ok (w.groups name).toList, w)

/-- How the world answers the calls of a trial. -/
def reply (w : World) : (q : Ask) → q.Answer × World
  | .create h body => w.create h body
  | .get h => w.get h
  | .patch h change => w.patch h change
  | .delete h => w.delete h
  | .describe name => w.describe name

/-! ### What a resource asks for -/

variable {object : Json} {spec : List (String × Json)} {name scope : String} {g : Group}

/-- A resource that asks for the members of its specification. -/
def Asks (object : Json) (spec : List (String × Json)) : Prop :=
  object.get? "spec" = some (.obj spec)

/-- A specification that gives its group a name. -/
def Names (spec : List (String × Json)) (name : String) : Prop :=
  spec.lookup "autoScalingGroupName" = some (.str name)

theorem Names.get? (h : Names spec name) :
    ((Json.obj spec).get? "autoScalingGroupName").bind Json.asString? = some name := by
  rw [Json.get?, h]
  rfl

/-- A group is projected under the name that the specification gives it. -/
theorem Names.eq_of_project (h : Names spec name) (hg : project (.obj spec) scope = some g) :
    g.name = name := by
  unfold project at hg
  dsimp only at hg
  split at hg
  · cases hg
    simp [h.get?]
  · cases hg

theorem Asks.members (h : Asks object spec) :
    ∃ members, object = .obj members ∧ members.lookup "spec" = some (.obj spec) := by
  cases object with
  | obj members => exact ⟨members, rfl, h⟩
  | _ => cases h

theorem Asks.specOf (h : Asks object spec) :
    specOf object = .obj spec := by
  rw [World.specOf, h]
  rfl

/-- A change of the specification leaves the rest of a resource alone. -/
theorem Asks.merge (h : Asks object spec) (changes : List (String × Json)) :
    Asks (object.merge (Trial.specChange changes)) (Json.mergeMembers spec changes) := by
  obtain ⟨members, rfl, hspec⟩ := h.members
  simp [Asks, Trial.specChange, Json.merge, Json.mergeMembers, hspec, Json.get?,
    Json.lookup_setMember]

theorem Asks.withStatus (h : Asks object spec) (status : String) :
    Asks (withStatus status object) spec := by
  obtain ⟨members, rfl, hspec⟩ := h.members
  simpa [Asks, World.withStatus, Json.get?, Json.lookup_setMember] using hspec

theorem Asks.get?_status (h : Asks object spec) (status : String) :
    (World.withStatus status object).get? "status" = some (syncStatus status) := by
  obtain ⟨members, rfl, -⟩ := h.members
  simp [World.withStatus, Json.get?, Json.lookup_setMember]

/-- The condition of a resource is that of its status. -/
theorem Asks.statusOf (h : Asks object spec) (status : String) :
    (Condition.find? (World.withStatus status object) Condition.syncedKind).bind
      Condition.statusOf? = some status := by
  rw [Condition.find?, h.get?_status status]
  rfl

/-! ### A world with one resource -/

/-- A world that holds one resource, with the readings that are left until it is taken over. -/
def holding (syncLag deletionLag : Nat) (h : Handle) (object : Json) (left? : Option Nat)
    (groups : String → Option Group) : World where
  objects := Function.update (fun _ => none) h.name (some object)
  pending := Function.update (fun _ => none) h.name left?
  groups := groups
  deleting := fun _ => none
  syncLag := syncLag
  deletionLag := deletionLag
  stuck := false

/-- A world without resources, where groups may still be deleted. -/
def cleared (syncLag deletionLag : Nat) (groups : String → Option Group)
    (deleting : String → Option Nat) : World :=
  { start syncLag deletionLag with groups := groups, deleting := deleting }

variable {s l left : Nat} {h : Handle} {left? : Option Nat} {groups : String → Option Group}

theorem outcome_call {q : Ask} {answer : q.Answer} {w w' : World}
    (h : w.reply q = (answer, w')) : Task.outcome World.reply (Site.call q) w = (answer, w') := h

theorem reply_create (body : Json) :
    (start s l).reply (.create h body) =
      (.ok body, holding s l h body (some s) fun _ => none) := rfl

theorem reply_get_rest :
    (holding s l h object none groups).reply (.get h) =
      (.ok object, holding s l h object none groups) := by
  simp [reply, get, reconcile, holding]

theorem reply_get_late :
    (holding s l h object (some (left + 1)) groups).reply (.get h) =
      (.ok object, holding s l h object (some left) groups) := by
  simp [reply, get, reconcile, holding]

theorem reply_get_due (hg : project (specOf object) h.scope = some g) :
    (holding s l h object (some 0) groups).reply (.get h) =
      (.ok (withStatus Condition.trueStatus object),
        holding s l h (withStatus Condition.trueStatus object) none
          (Function.update groups g.name (some g))) := by
  simp [reply, get, reconcile, takeOver, holding, hg]

theorem reply_patch (groups : String → Option Group) (object : Json) (left? : Option Nat)
    (change : Json) :
    (holding s l h object left? groups).reply (.patch h change) =
      (.ok (withStatus falseStatus (object.merge change)),
        holding s l h (withStatus falseStatus (object.merge change)) (some s) groups) := by
  simp [reply, patch, delay, holding]

theorem reply_describe (name : String) :
    (holding s l h object left? groups).reply (.describe name) =
      (.ok (groups name).toList, holding s l h object left? groups) := by
  simp [reply, describe, holding]

theorem reply_delete (groups : String → Option Group) (object : Json) (left? : Option Nat) :
    (holding s l h object left? groups).reply (.delete h) =
      (.ok (), cleared s l groups ((start s l).deletionsWith object)) := by
  simp [reply, delete, deletionsWith, holding, cleared, start]

theorem deletionsWith_of_asks (hask : Asks object spec) (hname : Names spec name) :
    (start s l).deletionsWith object = Function.update (fun _ => none) name (some l) := by
  simp [deletionsWith, hask.specOf, hname.get?, start]

/-! ### A world without resources -/

variable {deleting : String → Option Nat}

theorem reply_get_cleared :
    (cleared s l groups deleting).reply (.get h) =
      (.error (.notFound h.display), cleared s l groups deleting) := by
  simp [reply, get, reconcile, cleared, start]

theorem reply_describe_late :
    (cleared s l groups (Function.update deleting name (some (left + 1)))).reply (.describe name) =
      (.ok (groups name).toList,
        cleared s l groups (Function.update deleting name (some left))) := by
  simp [reply, describe, cleared]

theorem reply_describe_due (groups : String → Option Group) (deleting : String → Option Nat)
    (name : String) :
    (cleared s l groups (Function.update deleting name (some 0))).reply (.describe name) =
      (.ok [], cleared s l (Function.update groups name none)
        (Function.update deleting name none)) := by
  simp [reply, describe, cleared]

end World

end ScalingTrials
