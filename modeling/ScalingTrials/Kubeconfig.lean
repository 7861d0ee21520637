import ScalingTrials.Environment
import ScalingTrials.Files
import ScalingTrials.Text.Split
import ScalingTrials.Yaml.Value

/-!
Files that tell how a cluster is reached: clusters, users and contexts by name, and the context to
use. Whether such a file is usable can be told without reaching the cluster, as far as its user is
identified by what stands in the file. Commands and providers that identify users are not run, and
no cluster is looked for but those of the files.
-/

namespace ScalingTrials.Kubeconfig

open Yaml (Value)

/-- The step that failed: a file is no such file or its context leads nowhere, or no client can be
made of what it says. -/
inductive Failure where
  | unreadable
  | uninitialized
  deriving DecidableEq, Repr

def Failure.message : Failure → String
  | unreadable => "Unable to read kubeconfig"
  | uninitialized => "Error initializing the Kubernetes client"

/-- The value of an entry; null counts as left out. -/
def member? (entries : List (Value × Value)) (key : String) : Option Value :=
  (entries.find? fun e => Value.sameKey e.1 (.str key)).bind fun e =>
    match e.2 with
    | .null => none
    | v => some v

/-- The text of an entry, which may be left out. -/
def text? (entries : List (Value × Value)) (key : String) : Except Failure (Option String) :=
  match member? entries key with
  | none => .ok none
  | some (.str s) => .ok (some s)
  | some _ => .error .unreadable

def text (entries : List (Value × Value)) (key : String) : Except Failure String :=
  match text? entries key with
  | .ok (some s) => .ok s
  | .ok none => .error .unreadable
  | .error e => .error e

/-- A mapping in an entry, which may be left out. -/
def mapping? (entries : List (Value × Value)) (key : String) :
    Except Failure (Option (List (Value × Value))) :=
  match member? entries key with
  | none => .ok none
  | some (.map inner) => .ok (some inner)
  | some _ => .error .unreadable

/-- Mappings by name, as a list of the file gives them. -/
abbrev Named := List (String × Option (List (Value × Value)))

def readNamed (content : String) : List Value → Except Failure Named
  | [] => .ok []
  | .map entries :: rest => do
    let name ← text entries "name"
    let inner ← mapping? entries content
    let others ← readNamed content rest
    .ok ((name, inner) :: others)
  | _ :: _ => .error .unreadable

def named (entries : List (Value × Value)) (key content : String) : Except Failure Named :=
  match member? entries key with
  | none => .ok []
  | some (.seq items) => readNamed content items
  | some _ => .error .unreadable

/-- The mapping of a name. -/
def lookup (all : Named) (name : String) : Except Failure (List (Value × Value)) :=
  match all.lookup name with
  | some (some inner) => .ok inner
  | _ => .error .unreadable

/-- What a file says. -/
structure Config where
  current : Option String
  contexts : Named
  clusters : Named
  users : Named

def Config.empty : Config := ⟨none, [], [], []⟩

def ofEntries (entries : List (Value × Value)) : Except Failure Config := do
  let current ← text? entries "current-context"
  let contexts ← named entries "contexts" "context"
  let clusters ← named entries "clusters" "cluster"
  let users ← named entries "users" "user"
  .ok ⟨current, contexts, clusters, users⟩

/-- Reads the text of a file. An empty one says nothing. -/
def parse (content : String) : Except Failure Config :=
  match Value.parse content with
  | .ok (.map entries) => ofEntries entries
  | .ok _ => .error .unreadable
  | .error .noDocument => .ok .empty
  | .error _ => .error .unreadable

def load (fs : Files) (path : String) : Except Failure Config :=
  match fs.readText path with
  | .ok content => parse content
  | .error _ => .error .unreadable

/-- Two files together; what the first says counts. -/
def Config.merge (a b : Config) : Config :=
  ⟨a.current.or b.current, a.contexts ++ b.contexts, a.clusters ++ b.clusters,
    a.users ++ b.users⟩

/-- The value of a character of base64. -/
def sextet? (c : Char) : Option Nat :=
  if 'A' ≤ c ∧ c ≤ 'Z' then some (c.toNat - 65)
  else if 'a' ≤ c ∧ c ≤ 'z' then some (c.toNat - 71)
  else if '0' ≤ c ∧ c ≤ '9' then some (c.toNat + 4)
  else if c = '+' then some 62
  else if c = '/' then some 63
  else none

/-- The characters that base64 writes, one for each byte. -/
def decode : List Char → Option (List Char)
  | [] => some []
  | a :: b :: '=' :: '=' :: [] => do
    let a ← sextet? a
    let b ← sextet? b
    some [Char.ofNat (a * 4 + b / 16)]
  | a :: b :: c :: '=' :: [] => do
    let a ← sextet? a
    let b ← sextet? b
    let c ← sextet? c
    some [Char.ofNat (a * 4 + b / 16), Char.ofNat (b % 16 * 16 + c / 4)]
  | a :: b :: c :: d :: rest => do
    let a ← sextet? a
    let b ← sextet? b
    let c ← sextet? c
    let d ← sextet? d
    let more ← decode rest
    some (Char.ofNat (a * 4 + b / 16) :: Char.ofNat (b % 16 * 16 + c / 4) ::
      Char.ofNat (c % 4 * 64 + d) :: more)
  | _ => none

/-- Whether a text holds another. -/
def holds (part : List Char) : List Char → Bool
  | [] => part.isEmpty
  | c :: rest => part.isPrefixOf (c :: rest) || holds part rest

/-- Whether a certificate and a key are of the kind that identifies a user. -/
def identifies (certificate key : List Char) : Bool :=
  holds "-----BEGIN CERTIFICATE-----".toList certificate &&
    holds "PRIVATE KEY-----".toList key

/-- Judges the user by what identifies it, if anything does. -/
def checkUser (user : List (Value × Value)) : Except Failure Unit := do
  let certificate ← text? user "client-certificate-data"
  let key ← text? user "client-key-data"
  let _ ← text? user "token"
  let _ ← text? user "username"
  let _ ← text? user "password"
  if (member? user "exec").isSome ∨ (member? user "auth-provider").isSome then
    .error .uninitialized
  else
    match certificate.bind fun s => decode s.toList, key.bind fun s => decode s.toList with
    | some c, some k => if identifies c k then .ok () else .error .uninitialized
    | _, _ => .ok ()

/-- Whether a text may be the address of a server. -/
def isAddress (s : String) : Bool :=
  s ≠ "" && s.toList.all fun c => 0x21 ≤ c.toNat && c.toNat ≤ 0x7E

def checkCluster (cluster : List (Value × Value)) : Except Failure Unit := do
  let server ← text cluster "server"
  let authority ← text? cluster "certificate-authority-data"
  if !isAddress server then .error .unreadable
  else
    match authority with
    | none => .ok ()
    | some data => if (decode data.toList).isSome then .ok () else .error .unreadable

/-- Follows the current context to its cluster and its user. -/
def Config.check (c : Config) : Except Failure Unit := do
  match c.current with
  | none => .error .unreadable
  | some name =>
    let context ← lookup c.contexts name
    let cluster ← lookup c.clusters (← text context "cluster")
    let user ← lookup c.users (← text context "user")
    checkCluster cluster
    checkUser user

/-- Judges the file at a path. -/
def check (fs : Files) (path : String) : Except Failure Unit := load fs path >>= Config.check

def mergeAll (fs : Files) : List String → Except Failure Config
  | [] => .ok .empty
  | path :: rest => do
    let c ← load fs path
    let others ← mergeAll fs rest
    .ok (c.merge others)

/-- The files that a variable names, with a colon between each two. -/
def paths (value : String) : List String :=
  ((Text.split ':' value.toList).filter (· ≠ [])).map String.ofList

/-- Judges the files that the environment names, or the one in the directory of the user. -/
def checkDefault (fs : Files) (env : Environment) : Except Failure Unit :=
  let config := match paths ((env.get? "KUBECONFIG").getD "") with
    | [] => load fs (Files.join ((env.get? "HOME").getD "") ".kube/config")
    | ps => mergeAll fs ps
  match config >>= Config.check with
  | .ok () => .ok ()
  | .error _ => .error .uninitialized

end ScalingTrials.Kubeconfig
