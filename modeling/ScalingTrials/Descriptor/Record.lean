import ScalingTrials.Descriptor
import ScalingTrials.Files
import ScalingTrials.Yaml.Reading
import ScalingTrials.Yaml.Writer

/-!
The record of a descriptor: a file of four lines in a directory of its own. It is read as a mapping
in any order with other keys passed over, or as a sequence of the four values.
-/

namespace ScalingTrials.Descriptor

open Yaml (Node Path Reading Source)

inductive Field where
  | templateId
  | templateName
  | zone
  | subnets
  deriving DecidableEq, Repr

namespace Field

/-- The fields in the order in which they are written. -/
def all : List Field := [templateId, templateName, zone, subnets]

def name : Field → String
  | templateId => "LaunchTemplateID"
  | templateName => "LaunchTemplateName"
  | zone => "AvailabilityZone1"
  | subnets => "VPCZoneIdentifier"

def ofName? (s : String) : Option Field := all.find? fun f => f.name = s

end Field

def get (d : Descriptor) : Field → String
  | .templateId => d.templateId
  | .templateName => d.templateName
  | .zone => d.zone
  | .subnets => d.subnets

/-- The text of a record. -/
def record (d : Descriptor) : String :=
  "---\n" ++ String.join (Field.all.map fun f => f.name ++ ": " ++ Yaml.scalar (d.get f) ++ "\n")

/-- What messages call a descriptor. -/
def expected : String := "struct ResourceDescriptor"

/-- The values that entries give to fields, newest first. -/
def readEntries (src : Source) (found : List (Field × String)) :
    List (Node × Node) → Reading (List (Field × String))
  | [] => pure found
  | (k, n) :: rest => do
    let key ← Reading.rawText src .root k "field identifier"
    match Field.ofName? key with
    | none => readEntries src found rest
    | some f =>
      if (found.lookup f).isSome then Reading.fail .root ("duplicate field `" ++ key ++ "`")
      else
        let v ← Reading.rawText src (Path.root.value k) n "a string"
        readEntries src ((f, v) :: found) rest

/-- The value that was found for a field. -/
def require (found : List (Field × String)) (f : Field) : Reading String :=
  match found.lookup f with
  | some v => pure v
  | none => Reading.fail .root ("missing field `" ++ f.name ++ "`")

/-- The texts of the first items, as many as there are fields. -/
def readItems (src : Source) (index : Nat) : List Field → List Node → Reading (List String)
  | _ :: fields, n :: rest => do
    let v ← Reading.rawText src (Path.root.item index) n "a string"
    let vs ← readItems src (index + 1) fields rest
    return v :: vs
  | _, _ => pure []

def ofItems (count : Nat) : List String → Reading Descriptor
  | [templateId, templateName, zone, subnets] =>
    if count = 4 then pure ⟨templateId, templateName, zone, subnets⟩
    else
      Reading.fail .root
        ("invalid length " ++ toString count ++ ", expected sequence of 4 elements")
  | _ =>
    Reading.fail .root
      ("invalid length " ++ toString count ++ ", expected " ++ expected ++ " with 4 elements")

def reading (src : Source) (n : Node) : Reading Descriptor := do
  match ← Reading.follow src n with
  | .map _ entries =>
    let found ← readEntries src [] entries
    let templateId ← require found .templateId
    let templateName ← require found .templateName
    let zone ← require found .zone
    let subnets ← require found .subnets
    return ⟨templateId, templateName, zone, subnets⟩
  | .seq _ items => ofItems items.length (← readItems src 0 Field.all items)
  | n => Reading.mismatch .root n expected

/-- The descriptor that a record holds. -/
def ofRecord (text : String) : Except Yaml.Error Descriptor := Yaml.readWith reading text

/-- Why a record cannot be used. -/
inductive RecordError where
  | unreadable (path : String) (cause : Files.Failure)
  | malformed (path : String) (cause : Yaml.Error)
  | unwritable (path : String) (cause : Files.Failure)

namespace RecordError

def cause : RecordError → String
  | unreadable _ cause => cause.message
  | malformed _ cause => cause.message
  | unwritable _ cause => cause.message

def summary : RecordError → String
  | unreadable path _ => "Unable to read bootstrap descriptor '" ++ path ++ "'"
  | malformed path _ => "Unable to parse bootstrap descriptor '" ++ path ++ "'"
  | unwritable path _ => "Unable to write bootstrap descriptor '" ++ path ++ "'"

def message (e : RecordError) : String := e.summary ++ ": " ++ e.cause

end RecordError

def recordName : String := "bootstrap.yaml"

/-- The path of the record within a directory. -/
def recordIn (dir : String) : String := Files.join dir recordName

/-- Reads the record of a directory. -/
def load (fs : Files) (dir : String) : Except RecordError Descriptor :=
  let path := recordIn dir
  match fs.readText path with
  | .error e => .error (.unreadable path e)
  | .ok text =>
    match ofRecord text with
    | .error e => .error (.malformed path e)
    | .ok d => .ok d

/-- Writes the record of a directory, which is made if it is missing, and tells its path. -/
def save (d : Descriptor) (fs : Files) (dir : String) : Except RecordError String × Files :=
  let path := recordIn dir
  match fs.makeAll dir with
  | (.error e, fs) => (.error (.unwritable dir e), fs)
  | (.ok (), fs) =>
    match fs.writeText path d.record with
    | .error e => (.error (.unwritable path e), fs)
    | .ok fs => (.ok path, fs)

/-- Takes away the record of a directory. -/
def discard (fs : Files) (dir : String) : Except RecordError Unit × Files :=
  let path := recordIn dir
  match fs.remove path with
  | .error e => (.error (.unwritable path e), fs)
  | .ok fs => (.ok (), fs)

end ScalingTrials.Descriptor
