import ScalingTrials.Json
import ScalingTrials.Wire.Timestamp

/-!
Resources as the server of a cluster knows them: a type, metadata of a fixed form and members of any
other kind. Of the metadata only the members that have a meaning are kept.
-/

namespace ScalingTrials.Wire

/-- Reads a value of one form and tells how it is written back. -/
abbrev Form := Json → Except String Json

namespace Form

def text : Form
  | .str s => .ok (.str s)
  | j => .error (j.mismatch "a string")

def flag : Form
  | .bool b => .ok (.bool b)
  | j => .error (j.mismatch "a boolean")

def whole : Form
  | .int n =>
    if n < (signedSize : Int) then .ok (.int n)
    else .error ("invalid value: integer `" ++ toString n ++ "`, expected i64")
  | j => .error (j.mismatch "i64")

def any : Form := .ok

def time : Form
  | .str s =>
    match Timestamp.normalize s with
    | .ok s => .ok (.str s)
    | .error flaw => .error flaw.message
  | j => .error (j.mismatch "an RFC 3339 formatted date and time string")

def readAll (item : Form) : List Json → Except String (List Json)
  | [] => .ok []
  | j :: rest => do
    let a ← item j
    let as ← readAll item rest
    .ok (a :: as)

def list (item : Form) : Form
  | .arr items => (readAll item items).map .arr
  | j => .error (j.mismatch "a sequence")

def readTexts : List (String × Json) → Except String (List (String × Json))
  | [] => .ok []
  | (k, j) :: rest => do
    let v ← text j
    let vs ← readTexts rest
    .ok ((k, v) :: vs)

def textMap : Form
  | .obj members => (readTexts members).map .obj
  | j => .error (j.mismatch "a map")

/-- The members that have a form; the others are passed over, and null counts as left out. -/
def readMembers (forms : List (String × Form)) :
    List (String × Json) → Except String (List (String × Json))
  | [] => .ok []
  | (k, j) :: rest =>
    match forms.lookup k, j with
    | none, _ => readMembers forms rest
    | some _, .null => readMembers forms rest
    | some form, j => do
      let v ← form j
      let vs ← readMembers forms rest
      .ok ((k, v) :: vs)

/-- A record of members in a fixed order. Those with a default are always there. -/
def record (what : String) (forms : List (String × Form)) (defaults : List (String × Json)) : Form
  | .obj members => do
    let found ← readMembers forms members
    .ok (.obj (forms.filterMap fun (k, _) =>
      ((found.lookup k).or (defaults.lookup k)).map fun v => (k, v)))
  | j => .error (j.mismatch what)

def emptyText (k : String) : String × Json := (k, .str "")

/-- What owns a resource. -/
def owner : Form :=
  record "OwnerReference"
    [("apiVersion", text), ("blockOwnerDeletion", flag), ("controller", flag), ("kind", text),
      ("name", text), ("uid", text)]
    (["apiVersion", "kind", "name", "uid"].map emptyText)

/-- Who manages which members of a resource. -/
def manager : Form :=
  record "ManagedFieldsEntry"
    [("apiVersion", text), ("fieldsType", text), ("fieldsV1", any), ("manager", text),
      ("operation", text), ("subresource", text), ("time", time)] []

def metadata : Form :=
  record "ObjectMeta"
    [("annotations", textMap), ("creationTimestamp", time), ("deletionGracePeriodSeconds", whole),
      ("deletionTimestamp", time), ("finalizers", list text), ("generateName", text),
      ("generation", whole), ("labels", textMap), ("managedFields", list manager), ("name", text),
      ("namespace", text), ("ownerReferences", list owner), ("resourceVersion", text),
      ("selfLink", text), ("uid", text)] []

end Form

/-- A resource. Its type is the version of the interface and the kind. -/
structure Resource where
  type? : Option (String × String)
  metadata : List (String × Json)
  members : List (String × Json)

namespace Resource

/-- Takes the type out of members. It counts only if both parts of it are texts, but what was looked
at is gone in any case; a part that is no text ends the look. -/
def takeType (version kind : Option String) :
    List (String × Json) → Option (String × String) × List (String × Json)
  | [] =>
    (match version, kind with
      | some v, some k => some (v, k)
      | _, _ => none, [])
  | (name, j) :: rest =>
    if name = "apiVersion" then
      match j with
      | .str v => takeType (some v) kind rest
      | _ => (none, rest)
    else if name = "kind" then
      match j with
      | .str k => takeType version (some k) rest
      | _ => (none, rest)
    else
      let (type?, rest) := takeType version kind rest
      (type?, (name, j) :: rest)

/-- The metadata among members, if it is there and has its form. -/
def readMetadata (members : List (String × Json)) : Except String (List (String × Json)) :=
  match members.lookup "metadata" with
  | none => .ok []
  | some j =>
    match Form.metadata j with
    | .ok (.obj found) => .ok found
    | .ok _ => .ok []
    | .error e => .error e

/-- Reads a resource, or tells what is wrong with it. -/
def ofJson : Json → Except String Resource
  | .obj members =>
    match readMetadata members with
    | .error e => .error e
    | .ok metadata =>
      let (type?, rest) := takeType none none (members.filter fun m => m.1 ≠ "metadata")
      .ok ⟨type?, metadata, rest⟩
  | j => .error (j.mismatch "struct DynamicObject")

/-- The resource under a name and in a namespace. -/
def named (r : Resource) (name scope : String) : Resource :=
  { r with
    metadata := Json.setMember "namespace" (.str scope)
      (Json.setMember "name" (.str name) r.metadata) }

def toJson (r : Resource) : Json :=
  let type := match r.type? with
    | some (version, kind) => [("apiVersion", .str version), ("kind", .str kind)]
    | none => []
  .obj (type ++ ("metadata", .obj r.metadata) :: r.members)

end Resource

/-- What a report of the cluster says of the resource that it is about. -/
def reportDetails : Form :=
  let cause := Form.record "struct StatusCause"
    [("reason", Form.text), ("message", Form.text), ("field", Form.text)] []
  Form.record "struct StatusDetails"
    [("name", Form.text), ("group", Form.text), ("kind", Form.text), ("uid", Form.text),
      ("causes", Form.list cause), ("retryAfterSeconds", Form.whole)] []

/-- Whether a member that may be left out is a text. -/
def isTextIfAny (j : Json) (k : String) : Bool :=
  match j.get? k with
  | none => true
  | some (.str _) => true
  | some _ => false

/-- Whether a value is a report: how a request ended, and what there is to say of it. -/
def isReport (j : Json) : Bool :=
  isTextIfAny j "message" && isTextIfAny j "reason" &&
    (match j.get? "code" with
      | none => true
      | some (.int n) => decide (0 ≤ n ∧ n < 65536)
      | some _ => false) &&
    (match j.get? "status" with
      | none => true
      | some .null => true
      | some (.str s) => s == "Success" || s == "Failure"
      | some _ => false) &&
    (match j.get? "details" with
      | none => true
      | some .null => true
      | some d => (reportDetails d).isOk)

end ScalingTrials.Wire
