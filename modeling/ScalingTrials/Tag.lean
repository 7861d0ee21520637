import ScalingTrials.Dictionary
import ScalingTrials.Json

/-!
Tags of scaling groups. The controller and the cloud put tags of their own on a group, so the tags
that a user asked for are compared after those are left out.
-/

namespace ScalingTrials

structure Tag where
  key : String
  value : String
  /-- Whether instances of the group get the tag as well. -/
  propagated : Bool
  deriving DecidableEq, Repr

namespace Tag

/-- What begins the keys of the controller's own tags. -/
def controllerMark : String := "services.k8s.aws"

/-- What begins the keys of the cloud's own tags. -/
def cloudMark : String := "aws:"

def controllerVersionKey : String := "services.k8s.aws/controller-version"
def namespaceKey : String := "services.k8s.aws/namespace"

/-- The keys that the controller puts on every group of its own. -/
def requiredKeys : List String := [controllerVersionKey, namespaceKey]

/-- Whether a text begins with another. -/
def begins (mark s : String) : Bool := mark.toList.isPrefixOf s.toList

/-- Whether a key belongs to the controller or the cloud. -/
def isSystem (key : String) : Bool := begins cloudMark key || begins controllerMark key

/-- The tags of the user by key; of several with one key the last counts. -/
def userValues (tags : List Tag) : Dictionary :=
  .ofList ((tags.filter fun t => !isSystem t.key).map fun t => (t.key, t.value))

/-- The required keys that no tag has. -/
def missingKeys (tags : List Tag) : List String :=
  requiredKeys.filter fun k => !tags.any fun t => t.key = k

/-- Whether the tags of the user are the expected ones: as many, and among them each that is
expected. -/
def agree (expected : Dictionary) (tags : List Tag) : Bool :=
  let expected := expected.filter fun k _ => !isSystem k
  let actual := userValues tags
  expected.size = actual.size && expected.entries.all fun e => actual.get? e.1 == some e.2

def find? (tags : List Tag) (key : String) : Option Tag := tags.find? fun t => t.key = key

/-- What messages show of a tag. -/
def describe (t : Tag) : String :=
  "AsgTag \x7b key: " ++ Text.quote t.key ++ ", value: " ++ Text.quote t.value ++
    ", propagate_at_launch: " ++ toString t.propagated ++ " \x7d"

def describeAll (tags : List Tag) : String := "[" ++ ", ".intercalate (tags.map describe) ++ "]"

def toJson (t : Tag) : Json :=
  .obj [("key", .str t.key), ("value", .str t.value), ("propagateAtLaunch", .bool t.propagated)]

/-- The parts of a tag that have been read. -/
structure Draft where
  key : Option String
  value : Option String
  propagated : Option Bool

def readText (j : Json) : Except String String :=
  match j with
  | .str s => .ok s
  | j => .error (j.mismatch "a string")

def readTruth (j : Json) : Except String Bool :=
  match j with
  | .bool b => .ok b
  | j => .error (j.mismatch "a boolean")

/-- Takes in one member; unknown ones are passed over. -/
def Draft.take (d : Draft) (name : String) (j : Json) : Except String Draft :=
  if name = "key" then (readText j).map fun s => { d with key := some s }
  else if name = "value" then (readText j).map fun s => { d with value := some s }
  else if name = "propagateAtLaunch" then
    (readTruth j).map fun b => { d with propagated := some b }
  else .ok d

def Draft.takeAll (d : Draft) : List (String × Json) → Except String Draft
  | [] => .ok d
  | (name, j) :: rest =>
    match d.take name j with
    | .ok d => d.takeAll rest
    | .error e => .error e

def missing (name : String) : String := "missing field `" ++ name ++ "`"

def Draft.finish (d : Draft) : Except String Tag :=
  match d.key, d.value, d.propagated with
  | none, _, _ => .error (missing "key")
  | _, none, _ => .error (missing "value")
  | _, _, none => .error (missing "propagateAtLaunch")
  | some k, some v, some p => .ok ⟨k, v, p⟩

/-- The members in the order in which an array gives them. -/
def memberNames : List String := ["key", "value", "propagateAtLaunch"]

def wrongLength (n : Nat) : String :=
  "invalid length " ++ toString n ++
    (if n < memberNames.length then ", expected struct AsgTag with 3 elements"
      else ", expected fewer elements in array")

/-- Reads a tag from an object, or from an array of its three parts. -/
def ofJson (j : Json) : Except String Tag :=
  let blank : Draft := ⟨none, none, none⟩
  match j with
  | .obj members => blank.takeAll members >>= Draft.finish
  | .arr items => do
    let draft ← blank.takeAll (memberNames.zip items)
    if items.length = memberNames.length then draft.finish
    else .error (wrongLength items.length)
  | j => .error (j.mismatch "struct AsgTag")

end Tag

end ScalingTrials
