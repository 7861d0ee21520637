import ScalingTrials.Binary64.Literal
import ScalingTrials.Condition
import ScalingTrials.Environment
import ScalingTrials.Handle
import ScalingTrials.Runner

/-!
Arguments of the command line: options in front of a command and options and operands behind it. An
option stands at most once, unless it collects values.
-/

namespace ScalingTrials.CommandLine

/-- How an argument looks. -/
inductive Look where
  | plain
  /-- Everything behind it is an operand. -/
  | ending
  | long (name : String) (attached : Option String)
  | short (letter : Char)
  deriving DecidableEq, Repr

/-- The part of a text in front of the first equals sign, and the part behind it. -/
def splitEquals (cs : List Char) : String × Option String :=
  let k := cs.takeWhile (· ≠ '=')
  match cs.drop k.length with
  | _ :: v => (String.ofList k, some (String.ofList v))
  | [] => (String.ofList k, none)

def look (argument : String) : Look :=
  match argument.toList with
  | ['-', '-'] => .ending
  | '-' :: '-' :: rest =>
    let (name, attached) := splitEquals rest
    .long name attached
  | '-' :: letter :: _ => .short letter
  | _ => .plain

/-- What a command takes: options with a value and options without, by name. -/
structure Form where
  valued : List String
  bare : List String
  /-- Whether its version can be asked for. -/
  versioned : Bool

/-- Why no command is carried out. -/
inductive Stop where
  | misused
  | helpWanted
  | versionWanted
  deriving DecidableEq, Repr

/-- An argument in its role. -/
inductive Item where
  | valued (name value : String)
  | lacking (name : String)
  | bare (name : String)
  | operand (text : String)
  deriving DecidableEq, Repr

/-- The role of an option that does not take the next argument. -/
def optionItem (f : Form) (name : String) (attached : Option String) : Except Stop Item :=
  if name = "help" ∧ attached = none then .error .helpWanted
  else if name = "version" ∧ attached = none ∧ f.versioned then .error .versionWanted
  else
    match attached with
    | some v => if f.valued.contains name then .ok (.valued name v) else .error .misused
    | none =>
      if f.valued.contains name then .ok (.lacking name)
      else if f.bare.contains name then .ok (.bare name)
      else .error .misused

/-- What a single letter asks for. -/
def letterStop (f : Form) (letter : Char) : Stop :=
  if letter = 'h' then .helpWanted
  else if letter = 'V' ∧ f.versioned then .versionWanted
  else .misused

/-- The arguments of a command in their roles. -/
def items (f : Form) : List String → Except Stop (List Item)
  | [] => .ok []
  | a :: rest =>
    match look a with
    | .plain => (items f rest).map (.operand a :: ·)
    | .ending => .ok (rest.map .operand)
    | .short letter => .error (letterStop f letter)
    | .long name attached =>
      match optionItem f name attached, rest with
      | .error stop, _ => .error stop
      | .ok (.lacking name), v :: rest =>
        if look v = .plain then (items f rest).map (.valued name v :: ·)
        else (items f (v :: rest)).map (.lacking name :: ·)
      | .ok item, rest => (items f rest).map (item :: ·)

/-- The options in front of a command, the command and its arguments. -/
def frontItems (f : Form) :
    List String → Except Stop (List Item × Option (String × List String))
  | [] => .ok ([], none)
  | a :: rest =>
    match look a with
    | .plain => .ok ([], some (a, rest))
    | .ending => if rest = [] then .ok ([], none) else .error .misused
    | .short letter => .error (letterStop f letter)
    | .long name attached =>
      match optionItem f name attached, rest with
      | .error stop, _ => .error stop
      | .ok (.lacking name), v :: rest =>
        if look v = .plain then
          (frontItems f rest).map fun (is, command) => (.valued name v :: is, command)
        else (frontItems f (v :: rest)).map fun (is, command) => (.lacking name :: is, command)
      | .ok item, rest => (frontItems f rest).map fun (is, command) => (item :: is, command)

/-- The values of an option in order. -/
def valuesOf (is : List Item) (name : String) : Except Stop (List String) :=
  if is.any (· == .lacking name) then .error .misused
  else .ok (is.filterMap fun
    | .valued n v => if n = name then some v else none
    | _ => none)

/-- The value of an option that stands at most once. -/
def valueOf (is : List Item) (name : String) : Except Stop (Option String) :=
  match valuesOf is name with
  | .error stop => .error stop
  | .ok [] => .ok none
  | .ok [v] => .ok (some v)
  | .ok _ => .error .misused

/-- Whether an option without a value stands, which it may do once. -/
def isSet (is : List Item) (name : String) : Except Stop Bool :=
  match is.filter (· == .bare name) with
  | [] => .ok false
  | [_] => .ok true
  | _ => .error .misused

def operands (is : List Item) : List String :=
  is.filterMap fun
    | .operand text => some text
    | _ => none

/-- The only operand, if there is one. -/
def operand (is : List Item) : Except Stop (Option String) :=
  match operands is with
  | [] => .ok none
  | [a] => .ok (some a)
  | _ => .error .misused

/-- A whole number below a limit, with an optional plus sign. -/
def natural (limit : Nat) (text : String) : Except Stop Nat :=
  let digits := match text.toList with
    | '+' :: rest => rest
    | cs => cs
  if digits ≠ [] ∧ digits.all Binary64.isDigit ∧ Binary64.numeral digits < limit then
    .ok (Binary64.numeral digits)
  else .error .misused

/-- A replacement: a key, an equals sign and a value that may hold further ones. -/
def replacement (text : String) : Except Stop (String × String) :=
  match splitEquals text.toList with
  | (k, some v) => .ok (k, v)
  | (_, none) => .error .misused

def replacements : List String → Except Stop (List (String × String))
  | [] => .ok []
  | text :: rest => do
    let r ← replacement text
    let rs ← replacements rest
    .ok (r :: rs)

/-- The names of the levels of logging, which go in any case. -/
def logLevels : List String := ["off", "error", "warn", "info", "debug", "trace"]

def checkLogLevel : Option String → Except Stop Unit
  | none => .ok ()
  | some level =>
    if logLevels.contains (String.ofList (level.toList.map Char.toLower)) then .ok ()
    else .error .misused

/-- What concerns every command. -/
structure Options where
  kubeconfig : Option String
  recordDir : String
  region : Option String
  deriving DecidableEq, Repr

inductive Command where
  | bootstrap (templateName : Option String)
  | cleanup (strict : Bool)
  | replacements (asJson : Bool)
  | render (template dir : String) (name : Option String) (values : List (String × String))
  | wait (name scope : String) (kind status : String) (attempts : Nat) (seconds : Nat)
  deriving DecidableEq, Repr

def frontForm : Form := ⟨["log-level", "kubeconfig", "bootstrap-dir", "region"], [], true⟩

def recordDirVariable : String := "ASG_E2E_BOOTSTRAP_DIR"
def regionVariable : String := "ASG_E2E_REGION"

/-- The options in front of a command. Variables stand in for those that are left out. -/
def readOptions (is : List Item) (env : Environment) : Except Stop Options := do
  checkLogLevel (← valueOf is "log-level")
  let kubeconfig ← valueOf is "kubeconfig"
  let recordDir ← valueOf is "bootstrap-dir"
  let region ← valueOf is "region"
  .ok ⟨kubeconfig, (recordDir.or (env.get? recordDirVariable)).getD ".",
    region.or (env.get? regionVariable)⟩

def defaultTemplate : String := Runner.manifestName
def defaultManifestDir : String := "resources"

def readBootstrap (arguments : List String) : Except Stop Command := do
  let is ← items ⟨["launch-template-name"], [], false⟩ arguments
  let name ← valueOf is "launch-template-name"
  if operands is = [] then .ok (.bootstrap name) else .error .misused

def readCleanup (arguments : List String) : Except Stop Command := do
  let is ← items ⟨[], ["strict"], false⟩ arguments
  let strict ← isSet is "strict"
  if operands is = [] then .ok (.cleanup strict) else .error .misused

def readReplacements (arguments : List String) : Except Stop Command := do
  let is ← items ⟨[], ["json"], false⟩ arguments
  let asJson ← isSet is "json"
  if operands is = [] then .ok (.replacements asJson) else .error .misused

def readRender (arguments : List String) : Except Stop Command := do
  let is ← items ⟨["resource-dir", "name", "set"], [], false⟩ arguments
  let template ← operand is
  let dir ← valueOf is "resource-dir"
  let name ← valueOf is "name"
  let values ← replacements (← valuesOf is "set")
  .ok (.render (template.getD defaultTemplate) (dir.getD defaultManifestDir) name values)

def readWait (arguments : List String) : Except Stop Command := do
  let is ← items ⟨["namespace", "condition", "status", "attempts", "interval"], [], false⟩ arguments
  let scope ← valueOf is "namespace"
  let kind ← valueOf is "condition"
  let status ← valueOf is "status"
  let attempts ← natural halfWordSize ((← valueOf is "attempts").getD "3")
  let seconds ← natural wordSize ((← valueOf is "interval").getD "10")
  match ← operand is with
  | none => .error .misused
  | some name =>
    .ok (.wait name (scope.getD Handle.defaultScope) (kind.getD Condition.syncedKind)
      (status.getD Condition.trueStatus) attempts seconds)

def readCommand (name : String) (arguments : List String) : Except Stop Command :=
  if name = "bootstrap" then readBootstrap arguments
  else if name = "cleanup" then readCleanup arguments
  else if name = "replacements" then readReplacements arguments
  else if name = "render" then readRender arguments
  else if name = "wait" then readWait arguments
  else if name = "help" then .error .helpWanted
  else .error .misused

/-- The options and the command that arguments ask for. -/
def read (arguments : List String) (env : Environment) : Except Stop (Options × Command) := do
  let (is, command) ← frontItems frontForm arguments
  match command with
  | none => .error .misused
  | some (name, rest) =>
    let command ← readCommand name rest
    let options ← readOptions is env
    .ok (options, command)

end ScalingTrials.CommandLine
