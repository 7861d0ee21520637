import ScalingTrials.Environment
import ScalingTrials.Files
import ScalingTrials.Handle

/-!
Settings of a suite, read from the environment variables whose names begin with a mark.
-/

namespace ScalingTrials

structure Settings where
  recordDir : String
  manifestDir : String
  scope : String
  region : Option String
  deriving DecidableEq, Repr

namespace Settings

/-- What begins the names of the variables. -/
def mark : List Char := "ASG_E2E_".toList

/-- Where the manifests that belong to the suite are installed. -/
def shippedManifests : String := "/usr/share/scaling-trials/manifests"

def defaults : Settings := ⟨".", shippedManifests, Handle.defaultScope, none⟩

inductive Field where
  | recordDir
  | manifestDir
  | scope
  | region
  deriving DecidableEq, Repr

namespace Field

def all : List Field := [recordDir, manifestDir, scope, region]

def name : Field → String
  | recordDir => "bootstrap_dir"
  | manifestDir => "resource_dir"
  | scope => "namespace"
  | region => "region"

def ofName? (s : String) : Option Field := all.find? fun f => f.name = s

end Field

/-- A text without the marks that it begins with, as often as they repeat. -/
def withoutMarks (fuel : Nat) (cs : List Char) : List Char :=
  match fuel with
  | 0 => cs
  | fuel + 1 => if mark.isPrefixOf cs then withoutMarks fuel (cs.drop mark.length) else cs

/-- The field that a variable sets. The mark is in upper case and the rest in any case. -/
def fieldOf? (name : String) : Option Field :=
  let cs := name.toList
  if mark.isPrefixOf cs then
    Field.ofName? (String.ofList ((withoutMarks cs.length cs).map Char.toLower))
  else none

/-- A field that two variables set. -/
structure Duplicate where
  field : Field
  deriving DecidableEq, Repr

def Duplicate.message (d : Duplicate) : String :=
  "Unable to read test settings from the environment: duplicate field `" ++ d.field.name ++ "`"

/-- The values that variables give to fields, newest first. -/
def collect (found : List (Field × String)) :
    Environment → Except Duplicate (List (Field × String))
  | [] => .ok found
  | (name, value) :: rest =>
    match fieldOf? name with
    | none => collect found rest
    | some f =>
      if (found.lookup f).isSome then .error ⟨f⟩ else collect ((f, value) :: found) rest

/-- The settings that an environment gives, with defaults for those that it does not. -/
def ofEnvironment (env : Environment) : Except Duplicate Settings :=
  match collect [] env with
  | .error e => .error e
  | .ok found => .ok {
      recordDir := (found.lookup .recordDir).getD defaults.recordDir
      manifestDir := (found.lookup .manifestDir).getD defaults.manifestDir
      scope := (found.lookup .scope).getD defaults.scope
      region := found.lookup .region }

/-- Whether settings amount to the same, however their paths are written. -/
def same (a b : Settings) : Bool :=
  Files.samePath a.recordDir b.recordDir && Files.samePath a.manifestDir b.manifestDir &&
    a.scope == b.scope && a.region == b.region

end Settings

end ScalingTrials
