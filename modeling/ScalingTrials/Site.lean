import ScalingTrials.Cloud
import ScalingTrials.Condition
import ScalingTrials.Group
import ScalingTrials.Handle

/-!
The site of a trial: the cluster that keeps resources and the cloud that reports groups. Its calls,
the errors of the cluster, and the waits that are built on reading a resource again and again.
-/

namespace ScalingTrials

namespace Site

/-- What the cluster says of a call that it refuses. -/
structure Refusal where
  status : String
  message : String
  reason : String
  code : Nat
  deriving DecidableEq, Repr

/-- The text of a refusal, once as it is and once part by part. -/
def Refusal.text (r : Refusal) : String :=
  "ApiError: " ++ r.message ++ ": " ++ r.reason ++ " (ErrorResponse \x7b status: " ++
    Text.quote r.status ++ ", message: " ++ Text.quote r.message ++ ", reason: " ++
    Text.quote r.reason ++ ", code: " ++ toString r.code ++ " \x7d)"

/-- Why a call brings nothing. -/
inductive Cause where
  | refused (r : Refusal)
  | unreachable (text : String)
  | undecodable
  | unaddressable (text : String)
  deriving DecidableEq, Repr

def Cause.text : Cause → String
  | refused r => r.text
  | unreachable text => "ServiceError: " ++ text
  | undecodable => "Error deserializing response"
  | unaddressable text => "Failed to build request: failed to build request: " ++ text

/-- The status of a response; only numbers of three digits or four below a thousand count. -/
def Cause.status? : Cause → Option Nat
  | refused r => if 100 ≤ r.code ∧ r.code < 1000 then some r.code else none
  | _ => none

inductive Verb where
  | create
  | get
  | patch
  | delete
  deriving DecidableEq, Repr

def Verb.text : Verb → String
  | create => "create"
  | get => "get"
  | patch => "patch"
  | delete => "delete"

/-- Why a resource cannot be made, read, changed or deleted. -/
inductive Error where
  | call (verb : Verb) (h : Handle) (cause : Cause)
  | body (h : Handle) (text : String)
  | notFound (what : String)
  deriving DecidableEq, Repr

namespace Error

def message : Error → String
  | call verb h cause =>
    "Unable to " ++ verb.text ++ " " ++ h.display ++ ": " ++ cause.text
  | body h text => "Error converting " ++ h.display ++ " to JSON: " ++ text
  | notFound what => what ++ " was not found"

/-- The status that the cluster answered with. -/
def status? : Error → Option Nat
  | call _ _ cause => cause.status?
  | body _ _ => none
  | notFound _ => some 404

/-- Whether the cluster says that the resource does not exist. -/
def isNotFound (e : Error) : Bool := e.status? == some 404

end Error

/-- The calls of a trial. -/
inductive Ask where
  | create (h : Handle) (body : Json)
  | get (h : Handle)
  | patch (h : Handle) (change : Json)
  | delete (h : Handle)
  | describe (name : String)

/-- What each call brings. -/
abbrev Ask.Answer : Ask → Type
  | create _ _ => Except Error Json
  | get _ => Except Error Json
  | patch _ _ => Except Error Json
  | delete _ => Except Error Unit
  | describe _ => Except Cloud.Error (List Group)

abbrev calls : Interface := ⟨Ask, Ask.Answer⟩

/-- Work at the site. -/
abbrev Work (α : Type) := Task calls α

/-- The work of one call. -/
def call (q : Ask) : Work q.Answer := .ask q .done

/-- The resource, unless it cannot be read for whatever reason. -/
def read? (h : Handle) : Work (Option Json) :=
  (call (.get h)).bind fun
    | .ok resource => .done (some resource)
    | .error _ => .done none

def isThere (h : Handle) : Work Bool := (read? h).bind fun found => .done found.isSome

/-- The reported condition of a type. -/
def condition? (h : Handle) (kind : String) : Work (Option Json) :=
  (read? h).bind fun found => .done (found.bind fun resource => Condition.find? resource kind)

/-- Waits until the resource reports a condition with the wanted status. -/
def await (h : Handle) (c : Condition) : Work Bool :=
  c.poller.await <| (condition? h c.kind).bind fun found =>
    .done (found.bind Condition.statusOf? == some c.status)

/-- Waits until the controller has given the resource a status; tells the resource as it was then
first seen. -/
def awaitOwner (h : Handle) (p : Poller) : Work (Option Json) :=
  p.findAfterDelay <| (read? h).bind fun found =>
    .done (found.filter fun resource => (resource.get? "status").isSome)

/-- Reads the resource; only the answer that it does not exist counts as such. -/
def gone (h : Handle) : Work (Option Unit) :=
  (call (.get h)).bind fun
    | .ok _ => .done none
    | .error e => .done (if e.isNotFound then some () else none)

/-- Deletes the resource and waits until it is gone. One that does not exist is gone at once. -/
def deleteAndWait (h : Handle) (p : Poller) : Work (Except Error Bool) :=
  (call (.delete h)).bind fun
    | .ok _ => (p.findAfterDelay (gone h)).bind fun found => .done (.ok found.isSome)
    | .error e => .done (if e.isNotFound then .ok true else .error e)

end Site

/-- Waits until a description lists a name no longer. One that fails counts as listing it. -/
def awaitAbsence {I : Interface} (describe : Task I (Except Cloud.Error (List String)))
    (name : String) (p : Poller) : Task I Bool :=
  p.await <| describe.bind fun
    | .ok names => .done (!names.any fun n => n = name)
    | .error _ => .done false

end ScalingTrials
