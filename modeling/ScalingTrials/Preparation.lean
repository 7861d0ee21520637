import ScalingTrials.Cloud
import ScalingTrials.Replacements

/-!
Preparing an account: the subnets of its default network, a recent image and a launch template that
uses it, kept in a descriptor. A template that exists under the name is adopted.
-/

namespace ScalingTrials.Preparation

open Cloud (calls)

def defaultTemplateName : String := "ack-test-asg-launch-template"
def instanceName : String := "ack-test-asg-instance"
def imageOwner : String := "amazon"

/-- The names of suitable images, the most wanted first. -/
def imagePatterns : List String := ["al2023-ami-2023.*-x86_64", "amzn2-ami-hvm-*-x86_64-gp2"]

/-- Why an account cannot be prepared. -/
inductive Failure where
  | networks (cause : Cloud.Error)
  | noNetwork
  | subnets (network : String) (cause : Cloud.Error)
  | noSubnets (network : String)
  | images (pattern : String) (cause : Cloud.Error)
  | noImage (patterns : List String)
  | creation (name : String) (cause : Cloud.Error)
  | adoption (name : String) (cause : Cloud.Error)
  | templateMissing (name : String)
  | record (cause : Descriptor.RecordError)

namespace Failure

def summary : Failure → String
  | networks _ => "Unable to describe VPCs"
  | noNetwork => "The account has no default VPC"
  | subnets network _ => "Unable to describe the subnets of '" ++ network ++ "'"
  | noSubnets network => "The default VPC '" ++ network ++ "' has no subnets"
  | images pattern _ => "Unable to describe images matching '" ++ pattern ++ "'"
  | noImage patterns => "No image matches any of " ++ Text.quoteList patterns
  | creation name _ => "Unable to create launch template '" ++ name ++ "'"
  | adoption name _ => "Unable to look up existing launch template '" ++ name ++ "'"
  | templateMissing name =>
    "Launch template '" ++ name ++ "' already exists but could not be found"
  | record _ => "Unable to persist the resource descriptor"

def cause? : Failure → Option String
  | networks cause => some cause.message
  | subnets _ cause => some cause.message
  | images _ cause => some cause.message
  | creation _ cause => some cause.message
  | adoption _ cause => some cause.message
  | record cause => some cause.message
  | noNetwork => none
  | noSubnets _ => none
  | noImage _ => none
  | templateMissing _ => none

def message (e : Failure) : String :=
  match e.cause? with
  | some cause => e.summary ++ ": " ++ cause
  | none => e.summary

end Failure

/-- The first network that is the default one. -/
def network : Task calls (Except Failure String) :=
  (Cloud.call .defaultNetworks).bind fun
    | .error e => .done (.error (.networks e))
    | .ok [] => .done (.error .noNetwork)
    | .ok (id :: _) => .done (.ok id)

/-- The subnets of a network, of which there must be one. -/
def subnetsOf (network : String) : Task calls (Except Failure (List Cloud.Subnet)) :=
  (Cloud.call (.subnets network)).bind fun
    | .error e => .done (.error (.subnets network e))
    | .ok [] => .done (.error (.noSubnets network))
    | .ok (s :: rest) => .done (.ok (s :: rest))

/-- The newest image under the first name that any image has. -/
def imageAmong : List String → Task calls (Except Failure String)
  | [] => .done (.error (.noImage imagePatterns))
  | pattern :: rest =>
    (Cloud.call (.images imageOwner pattern)).bind fun
      | .error e => .done (.error (.images pattern e))
      | .ok found =>
        match Cloud.Image.newest? found with
        | some image => .done (.ok image.id)
        | none => imageAmong rest

/-- Looks up the id of a template whose name is taken. -/
def adopt (name : String) : Task calls (Except Failure String) :=
  (Cloud.call (.templateId name)).bind fun
    | .error e => .done (.error (.adoption name e))
    | .ok none => .done (.error (.templateMissing name))
    | .ok (some id) => .done (.ok id)

/-- Makes a launch template, or adopts the one that has its name. -/
def template (name image : String) : Task calls (Except Failure String) :=
  (Cloud.call (.createTemplate (.make name image instanceName))).bind fun
    | .ok id => .done (.ok id)
    | .error e =>
      if e.hasCode Cloud.nameTakenCode then adopt name else .done (.error (.creation name e))

/-- The zone of the first subnet. -/
def zoneOf (subnets : List Cloud.Subnet) : String :=
  (subnets.head?.bind fun s => s.zone).getD Replacements.defaultZone

/-- Finds or makes everything that a descriptor holds. -/
def prepare (name : String) : Task calls (Except Failure Descriptor) :=
  network.andThen fun network =>
  (subnetsOf network).andThen fun subnets =>
  (imageAmong imagePatterns).andThen fun image =>
  (template name image).andThen fun id =>
  .done (.ok (.ofSubnetIds id name (zoneOf subnets) (subnets.map fun s => s.id)))

/-- Prepares the account and records the descriptor in a directory; tells the path of the record. -/
def prepareIn (name : String) (fs : Files) (dir : String) :
    Task calls (Except Failure String × Files) :=
  (prepare name).bind fun
    | .error e => .done (.error e, fs)
    | .ok d =>
      match d.save fs dir with
      | (.ok path, fs) => .done (.ok path, fs)
      | (.error e, fs) => .done (.error (.record e), fs)

end ScalingTrials.Preparation
