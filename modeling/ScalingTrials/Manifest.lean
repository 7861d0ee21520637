import ScalingTrials.Files
import ScalingTrials.Manifest.Placeholder
import ScalingTrials.Yaml.Value

/-!
Manifests: named templates of resource bodies, filled with values and read as YAML.
-/

namespace ScalingTrials

/-- A template by name, and the values to fill it with. -/
structure Manifest where
  name : String
  values : Dictionary

namespace Manifest

def named (name : String) : Manifest := ⟨name, .empty⟩

def withValue (m : Manifest) (k v : String) : Manifest := { m with values := m.values.insert k v }

/-- Takes over values in order, so that the last one of a key stays. -/
def withValues (m : Manifest) (pairs : List (String × String)) : Manifest :=
  { m with values := m.values.insertAll pairs }

/-- Why a manifest does not become a body. -/
inductive Failure where
  | unreadable (path : String) (cause : Files.Failure)
  | malformed (name : String) (cause : Yaml.Error)
  | unconvertible (name : String) (cause : Yaml.Value.KeyError)
  | notMapping (name : String)

namespace Failure

def summary : Failure → String
  | unreadable path _ => "Unable to read manifest template '" ++ path ++ "'"
  | malformed name _ => "Rendered manifest '" ++ name ++ "' is not valid YAML"
  | unconvertible name _ => "Rendered manifest '" ++ name ++ "' could not be converted to JSON"
  | notMapping name => "Rendered manifest '" ++ name ++ "' is not a mapping"

def cause? : Failure → Option String
  | unreadable _ cause => some cause.message
  | malformed _ cause => some cause.message
  | unconvertible _ cause => some cause.message
  | notMapping _ => none

def message (e : Failure) : String :=
  match e.cause? with
  | some cause => e.summary ++ ": " ++ cause
  | none => e.summary

end Failure

/-- The body that a text stands for once it is filled. -/
def bodyOf (name text : String) : Except Failure Json :=
  match Yaml.Value.parse text with
  | .error e => .error (.malformed name e)
  | .ok v =>
    match v.toJson with
    | .error e => .error (.unconvertible name e)
    | .ok (.obj members) => .ok (.obj members)
    | .ok _ => .error (.notMapping name)

/-- Fills a template text and reads the body. -/
def body (m : Manifest) (template : String) : Except Failure Json :=
  bodyOf m.name (fill m.values template)

/-- The path of the template within a directory. -/
def pathIn (m : Manifest) (dir : String) : String := Files.join dir (m.name ++ ".yaml")

/-- The body of the manifest whose template stands in a directory. -/
def render (m : Manifest) (fs : Files) (dir : String) : Except Failure Json :=
  let path := m.pathIn dir
  match fs.readText path with
  | .error e => .error (.unreadable path e)
  | .ok template => m.body template

end Manifest

end ScalingTrials
