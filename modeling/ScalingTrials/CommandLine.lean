import ScalingTrials.Cleanup
import ScalingTrials.CommandLine.Arguments
import ScalingTrials.Json.Writer
import ScalingTrials.Kubeconfig
import ScalingTrials.Naming
import ScalingTrials.Preparation

/-!
The commands: preparing an account, cleaning it up, showing replacements, rendering a manifest and
waiting for a condition. The status tells failed preparations from other failures.
-/

namespace ScalingTrials.CommandLine

/-- What a command may ask: the cloud or the site of trials. -/
inductive Ask where
  | cloud (q : Cloud.Ask)
  | site (q : Site.Ask)

abbrev Ask.Answer : Ask → Type
  | cloud q => Except Cloud.Error q.Result
  | site q => q.Answer

abbrev calls : Interface := ⟨Ask, Ask.Answer⟩

def onCloud {α : Type} (t : Task Cloud.calls α) : Task calls α :=
  t.via fun q => .ask (.cloud q) .done

def onSite {α : Type} (t : Site.Work α) : Task calls α := t.via fun q => .ask (.site q) .done

/-- What a command leaves: its status, what it prints and what it says of failures. -/
structure Outcome where
  status : Nat
  output : String
  complaint : String
  deriving DecidableEq, Repr

def success (output : String) : Outcome := ⟨0, output, ""⟩

/-- The status of failures other than those of preparation. -/
def failureStatus : Nat := 1

def misuseStatus : Nat := 2

/-- The status of a failed preparation. -/
def preparationStatus : Nat := 254

/-- A failure told by what was attempted, what failed and why. -/
def failure (status : Nat) (output : String) (chain : List String) : Outcome :=
  ⟨status, output, ": ".intercalate chain ++ "\n"⟩

def programName : String := "asg-test"
def version : String := "0.0.1"

def usage : String :=
  "usage: " ++ programName ++ " [--log-level LEVEL] [--kubeconfig FILE] [--bootstrap-dir DIR] " ++
    "[--region REGION] bootstrap|cleanup|replacements|render|wait ...\n"

def stopped : Stop → Outcome
  | .misused => ⟨misuseStatus, "", usage⟩
  | .helpWanted => success usage
  | .versionWanted => success (programName ++ " " ++ version ++ "\n")

/-- What failed and why: a message already holds its cause, and the cause follows once more. -/
def recordChain (e : Descriptor.RecordError) : List String := [e.message, e.cause]

def preparationChain (e : Preparation.Failure) : List String :=
  match e with
  | .record cause => e.message :: recordChain cause
  | e => e.message :: e.cause?.toList

/-- Whether an error says only that a text is malformed, which is said once. -/
def saidOnce : Manifest.Failure → Bool
  | .malformed _ .malformed => true
  | _ => false

def manifestChain (e : Manifest.Failure) : List String :=
  if saidOnce e then [e.message] else e.message :: e.cause?.toList

def runBootstrap (name : Option String) (fs : Files) (dir : String) :
    Task calls (Outcome × Files) :=
  let name := name.getD Preparation.defaultTemplateName
  (onCloud (Preparation.prepareIn name fs dir)).bind fun
    | (.ok path, fs) => .done (success ("Wrote bootstrap descriptor to '" ++ path ++ "'\n"), fs)
    | (.error e, fs) =>
      .done (failure preparationStatus ""
        ("Unable to bootstrap the test prerequisites" :: preparationChain e), fs)

/-- The lines that tell how the steps of a cleanup went. -/
def reportText (r : Cleanup.Report) : String :=
  String.join (r.steps.map fun (name, outcome) => name ++ ": " ++ outcome.text ++ "\n")

def runCleanup (strict : Bool) (fs : Files) (dir : String) : Task calls (Outcome × Files) :=
  (onCloud (Cleanup.cleanup fs dir)).bind fun (report, fs) =>
    let output := reportText report
    .done (if strict ∧ report.hasFailures then
        failure failureStatus output ["One or more cleanup steps failed"]
      else success output, fs)

/-- The text of values by key, one to a line. -/
def valueLines (values : Dictionary) : String :=
  String.join (values.entries.map fun (k, v) => k ++ "=" ++ v ++ "\n")

def valuesJson (values : Dictionary) : Json := .obj (values.entries.map fun (k, v) => (k, .str v))

def runReplacements (asJson : Bool) (fs : Files) (dir : String) : Outcome :=
  let r := Replacements.resolve fs dir
  { status := 0
    output := if asJson then (valuesJson r.values).pretty ++ "\n" else valueLines r.values
    complaint := match r.origin with
      | .recorded => ""
      | .fallback =>
        "No usable bootstrap descriptor in '" ++ dir ++ "', showing fallback values\n" }

/-- A manifest with the values of a record, a name, and values that go before both. -/
def manifestOf (template : String) (recorded : Dictionary) (name : String)
    (values : List (String × String)) : Manifest :=
  (((Manifest.named template).withValues recorded.entries).withValue
    Replacements.groupNameKey name).withValues values

def runRender (template dir : String) (name : String) (values : List (String × String))
    (fs : Files) (recordDir : String) : Outcome :=
  let m := manifestOf template (Replacements.resolve fs recordDir).values name values
  match m.render fs dir with
  | .ok body => success (body.pretty ++ "\n")
  | .error e =>
    failure failureStatus "" (("Unable to render '" ++ template ++ "'") :: manifestChain e)

/-- The name that a manifest gets when none is given. -/
def freshName (draws : Nat → Naming.Draw) : String :=
  (Naming.generate draws Trial.createDelete.beginning Runner.nameLimit).1

/-- What is said of a step that failed, and of its causes, each behind what it caused. -/
structure Reason where
  text : String
  causes : List String
  deriving DecidableEq, Repr

/-- What connects a command to a cluster. Each step can fail for reasons of its own. -/
structure Connector where
  /-- Finds a cluster and a user by the file at a path. -/
  configure : Files → Environment → String → Except Reason Unit
  /-- Makes a client for what was found by the file at a path. -/
  connect : Files → Environment → String → Except Reason Unit
  /-- Makes a client for what the surroundings suggest. -/
  infer : Files → Environment → Except Reason Unit

/-- A connector that knows nothing but the files that tell how a cluster is reached. -/
def Connector.byFiles : Connector where
  configure fs _ path :=
    match Kubeconfig.check fs path with
    | .error .unreadable => .error ⟨"no such file, or no usable context in it", []⟩
    | _ => .ok ()
  connect fs _ path :=
    match Kubeconfig.check fs path with
    | .error .uninitialized => .error ⟨"no usable certificate, token or password", []⟩
    | _ => .ok ()
  infer fs env :=
    match Kubeconfig.checkDefault fs env with
    | .error _ => .error ⟨"no usable file", []⟩
    | .ok () => .ok ()

/-- A step that failed and why: its message already holds the reason, which follows once more. -/
def accessChain (step : Kubeconfig.Failure) (r : Reason) : List String :=
  (step.message ++ ": " ++ r.text) :: r.text :: r.causes

/-- Connects to the cluster as the options tell. -/
def checkAccess (connector : Connector) (kubeconfig : Option String) (fs : Files)
    (env : Environment) : Except (List String) Unit :=
  match kubeconfig with
  | some path =>
    let attempt := "Unable to create kubernetes client from path '" ++ path ++ "'"
    match connector.configure fs env path with
    | .error r => .error (attempt :: accessChain .unreadable r)
    | .ok () =>
      match connector.connect fs env path with
      | .error r => .error (attempt :: accessChain .uninitialized r)
      | .ok () => .ok ()
  | none =>
    match connector.infer fs env with
    | .error r =>
      .error ("Unable to create default kubernetes client" :: accessChain .uninitialized r)
    | .ok () => .ok ()

def runWait (h : Handle) (c : Condition) : Task calls Outcome :=
  (onSite (Site.await h c)).bind fun held =>
    .done (if held then success (h.display ++ ": " ++ c.kind ++ "=" ++ c.status ++ "\n")
      else failure failureStatus ""
        ["Condition '" ++ c.kind ++ "' of " ++ h.display ++ " did not become '" ++ c.status ++ "'"])

/-- Carries out a command. -/
def run (connector : Connector) (o : Options) (c : Command) (env : Environment) (fs : Files)
    (draws : Nat → Naming.Draw) : Task calls (Outcome × Files) :=
  match c with
  | .bootstrap name => runBootstrap name fs o.recordDir
  | .cleanup strict => runCleanup strict fs o.recordDir
  | .replacements asJson => .done (runReplacements asJson fs o.recordDir, fs)
  | .render template dir name values =>
    .done (runRender template dir (name.getD (freshName draws)) values fs o.recordDir, fs)
  | .wait name scope kind status attempts seconds =>
    match checkAccess connector o.kubeconfig fs env with
    | .error chain => .done (failure failureStatus "" chain, fs)
    | .ok () =>
      (runWait ((Handle.ofScalingGroup name).within scope)
        ⟨kind, status, ⟨attempts, .ofSeconds (UInt64.ofNat seconds)⟩⟩).bind fun outcome =>
          .done (outcome, fs)

/-- Carries out what arguments ask for. -/
def execute (arguments : List String) (env : Environment) (fs : Files)
    (draws : Nat → Naming.Draw) (connector : Connector := Connector.byFiles) :
    Task calls (Outcome × Files) :=
  match read arguments env with
  | .error stop => .done (stopped stop, fs)
  | .ok (o, c) => run connector o c env fs draws

end ScalingTrials.CommandLine
