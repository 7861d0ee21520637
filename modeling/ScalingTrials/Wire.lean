import ScalingTrials.Json.Reader
import ScalingTrials.Site
import ScalingTrials.Wire.Resource

/-!
The calls of a trial as requests to the server of a cluster, and its responses as their answers.
-/

namespace ScalingTrials.Wire

open Site (Cause Refusal Verb)

inductive Method where
  | get
  | post
  | patch
  | delete
  deriving DecidableEq, Repr

/-- A request. Only some carry a body of some type. -/
structure Request where
  method : Method
  target : String
  content : Option (String × Json)

/-- A response, unless no connection comes about. -/
inductive Response where
  | failed (text : String)
  | answered (status : Nat) (text : String)
  deriving DecidableEq, Repr

/-- What is asked by wire: a request, or the description that the cloud gives. -/
inductive Ask where
  | send (r : Request)
  | describe (name : String)

abbrev Ask.Answer : Ask → Type
  | send _ => Response
  | describe _ => Except Cloud.Error (List Group)

abbrev calls : Interface := ⟨Ask, Ask.Answer⟩

def jsonType : String := "application/json"
def mergePatchType : String := "application/merge-patch+json"

/-- The path under which the resources of a kind are kept. -/
def collectionPath (h : Handle) : String :=
  (if h.group = "" then "/api/" else "/apis/") ++ h.apiVersion ++ "/namespaces/" ++ h.scope ++
    "/" ++ h.plural

def itemPath (h : Handle) : String := collectionPath h ++ "/" ++ h.name

/-- Whether a character may stand in the path of a target. -/
def inPath (c : Char) : Bool :=
  let n := c.toNat
  n == 0x21 || n == 0x22 || (0x24 ≤ n && n ≤ 0x3B) || n == 0x3D || (0x40 ≤ n && n ≤ 0x5F) ||
    (0x61 ≤ n && n ≤ 0x7E)

/-- Whether a character may stand in the query of a target. -/
def inQuery (c : Char) : Bool :=
  let n := c.toNat
  n == 0x21 || (0x24 ≤ n && n ≤ 0x3B) || n == 0x3D || (0x3F ≤ n && n ≤ 0x7E)

/-- The longest target, in bytes. -/
def targetLimit : Nat := 65534

/-- The bytes of a target behind its path. All but readings put the mark of a query there, which
stays empty. -/
def Method.markSize : Method → Nat
  | get => 0
  | post => 1
  | patch => 1
  | delete => 1

/-- The query of a target up to a fragment, if its characters are allowed. -/
def queryOf? (cs : List Char) : Option (List Char) :=
  let q := cs.takeWhile (· ≠ '#')
  if q.all inQuery then some q else none

/-- The target of a path without its fragment and without an empty query, or what is wrong with
it. -/
def target (method : Method) (path : String) : Except Cause String :=
  let cs := path.toList
  let way := cs.takeWhile fun c => c ≠ '?' ∧ c ≠ '#'
  if path.utf8ByteSize + method.markSize > targetLimit then .error (.unaddressable "uri too long")
  else if !way.all inPath then .error (.unaddressable "invalid uri character")
  else
    match cs.drop way.length with
    | '?' :: rest =>
      match queryOf? rest with
      | none => .error (.unaddressable "invalid uri character")
      | some [] => .ok (String.ofList way)
      | some q => .ok (String.ofList (way ++ '?' :: q))
    | _ => .ok (String.ofList way)

/-- The words that go with the statuses of failed requests. -/
def reasons : List (Nat × String) :=
  [(400, "Bad Request"), (401, "Unauthorized"), (402, "Payment Required"), (403, "Forbidden"),
    (404, "Not Found"), (405, "Method Not Allowed"), (406, "Not Acceptable"),
    (407, "Proxy Authentication Required"), (408, "Request Timeout"), (409, "Conflict"),
    (410, "Gone"), (411, "Length Required"), (412, "Precondition Failed"),
    (413, "Payload Too Large"), (414, "URI Too Long"), (415, "Unsupported Media Type"),
    (416, "Range Not Satisfiable"), (417, "Expectation Failed"), (418, "I'm a teapot"),
    (421, "Misdirected Request"), (422, "Unprocessable Entity"), (423, "Locked"),
    (424, "Failed Dependency"), (426, "Upgrade Required"), (428, "Precondition Required"),
    (429, "Too Many Requests"), (431, "Request Header Fields Too Large"),
    (451, "Unavailable For Legal Reasons"), (500, "Internal Server Error"),
    (501, "Not Implemented"), (502, "Bad Gateway"), (503, "Service Unavailable"),
    (504, "Gateway Timeout"), (505, "HTTP Version Not Supported"),
    (506, "Variant Also Negotiates"), (507, "Insufficient Storage"), (508, "Loop Detected"),
    (510, "Not Extended"), (511, "Network Authentication Required")]

def statusText (status : Nat) : String :=
  toString status ++ " " ++ (reasons.lookup status).getD "<unknown status code>"

/-- A text of a refusal, which is empty if it is left out. -/
def textOrEmpty? : Option Json → Option String
  | none => some ""
  | some j => j.asString?

/-- A code of a refusal, which has to fit 16 bits. -/
def code? (j : Json) : Option Nat :=
  match j with
  | .int n => if 0 ≤ n ∧ n < 65536 then some n.toNat else none
  | _ => none

/-- The refusal that a value describes, by its members or by its parts in order. -/
def refusal? : Json → Option Refusal
  | .obj members => do
    let status ← (members.lookup "status").bind Json.asString?
    let message ← textOrEmpty? (members.lookup "message")
    let reason ← textOrEmpty? (members.lookup "reason")
    let code ← (members.lookup "code").bind code?
    some ⟨status, message, reason, code⟩
  | .arr [.str status, .str message, .str reason, code] =>
    (code? code).map fun code => ⟨status, message, reason, code⟩
  | _ => none

/-- What a failed request is refused with. A text that describes no refusal becomes its message. -/
def refusalOf (status : Nat) (text : String) : Refusal :=
  match (Json.parse? text).bind refusal? with
  | some r => r
  | none => ⟨statusText status, Text.quote text, "Failed to parse error data", status⟩

/-- The text of a response to a request that did not fail. -/
def accepted : Response → Except Cause String
  | .failed text => .error (.unreachable text)
  | .answered status text =>
    if 400 ≤ status ∧ status < 600 then .error (.refused (refusalOf status text)) else .ok text

/-- The resource that a response brings. -/
def resourceOf (r : Response) : Except Cause Json :=
  match accepted r with
  | .error cause => .error cause
  | .ok text =>
    match (Json.parse? text).map Resource.ofJson with
    | some (.ok resource) => .ok resource.toJson
    | _ => .error .undecodable

/-- Whether a response to a deletion is a resource or a report. -/
def deletionOf (r : Response) : Except Cause Unit :=
  match accepted r with
  | .error cause => .error cause
  | .ok text =>
    match Json.parse? text with
    | none => .error .undecodable
    | some j =>
      if (j.get? "kind").bind Json.asString? == some "Status" then
        if isReport j then .ok () else .error .undecodable
      else
        match Resource.ofJson j with
        | .ok _ => .ok ()
        | .error _ => .error .undecodable

/-- Sends a request to a target, if it is one, and reads the response. -/
def exchange {α : Type} (verb : Verb) (h : Handle) (method : Method) (path : String)
    (content : Option (String × Json)) (read : Response → Except Cause α) :
    Task calls (Except Site.Error α) :=
  match target method path with
  | .error cause => .done (.error (.call verb h cause))
  | .ok target => .ask (.send ⟨method, target, content⟩) fun r =>
    .done (match read r with
      | .ok a => .ok a
      | .error cause => .error (.call verb h cause))

/-- The exchange that answers a call. -/
def answer : (q : Site.Ask) → Task calls q.Answer
  | .create h body =>
    match Resource.ofJson body with
    | .error text => .done (.error (.body h text))
    | .ok resource =>
      exchange .create h .post (collectionPath h)
        (some (jsonType, (resource.named h.name h.scope).toJson)) resourceOf
  | .get h => exchange .get h .get (itemPath h) none resourceOf
  | .patch h change =>
    exchange .patch h .patch (itemPath h) (some (mergePatchType, change)) resourceOf
  | .delete h => exchange .delete h .delete (itemPath h) none deletionOf
  | .describe name => .ask (.describe name) .done

/-- Work at a site, carried out by wire. -/
def carryOut {α : Type} (w : Site.Work α) : Task calls α := w.via answer

end ScalingTrials.Wire
