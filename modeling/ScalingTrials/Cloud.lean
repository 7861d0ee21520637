import ScalingTrials.Task

/-!
The cloud as far as an account is prepared in it: networks, images, launch templates, and the calls
that ask for them.
-/

namespace ScalingTrials.Cloud

/-- A failed call. Only the service itself gives a code. -/
structure Error where
  operation : String
  code : Option String
  text : String
  deriving DecidableEq, Repr

namespace Error

def hasCode (e : Error) (code : String) : Bool := e.code == some code

theorem hasCode_iff {e : Error} {code : String} : e.hasCode code = true ↔ e.code = some code := by
  simp [hasCode]

theorem hasCode_eq_false_iff {e : Error} {code : String} :
    e.hasCode code = false ↔ e.code ≠ some code := by
  simp [hasCode]

def message (e : Error) : String :=
  match e.code with
  | some code => e.operation ++ " failed (" ++ code ++ "): " ++ e.text
  | none => e.operation ++ " failed: " ++ e.text

end Error

/-- The code of the refusal to make a template whose name is taken. -/
def nameTakenCode : String := "InvalidLaunchTemplateName.AlreadyExistsException"

/-- The code of the refusal to delete a template that does not exist. -/
def noTemplateCode : String := "InvalidLaunchTemplateId.NotFound"

def defaultRegion : String := "us-west-2"

structure Subnet where
  id : String
  zone : Option String
  deriving DecidableEq, Repr

/-- `created` is a time stamp whose order is that of its text. -/
structure Image where
  id : String
  created : Option String
  deriving DecidableEq, Repr

namespace Image

/-- Whether the first time stamp is not later than the second; none comes before all others. -/
def notLater : Option String → Option String → Bool
  | none, _ => true
  | some _, none => false
  | some a, some b => a ≤ b

/-- The later of two images, and of two equally old ones the second. -/
def later (a b : Image) : Image := if notLater a.created b.created then b else a

/-- The newest image of a list, and of equally new ones the last. -/
def newest? : List Image → Option Image
  | [] => none
  | i :: rest => some (rest.foldl later i)

end Image

/-- What is asked for when a launch template is made. -/
structure TemplateRequest where
  name : String
  image : String
  instanceType : String
  /-- The tags of instances that are launched from the template. -/
  instanceTags : List (String × String)
  /-- The tags of the template itself. -/
  templateTags : List (String × String)
  deriving DecidableEq, Repr

namespace TemplateRequest

def smallInstance : String := "t3.micro"
def nameKey : String := "Name"
def managedByKey : String := "ManagedBy"
def managedByValue : String := "ACK"

def tagsFor (name : String) : List (String × String) :=
  [(nameKey, name), (managedByKey, managedByValue)]

def make (name image instanceName : String) : TemplateRequest :=
  ⟨name, image, smallInstance, tagsFor instanceName, tagsFor name⟩

end TemplateRequest

/-- The calls. -/
inductive Ask where
  | defaultNetworks
  | subnets (network : String)
  | images (owner pattern : String)
  | createTemplate (request : TemplateRequest)
  | templateId (name : String)
  | deleteTemplate (id : String)
  deriving DecidableEq, Repr

/-- What each call brings, if it does not fail. -/
abbrev Ask.Result : Ask → Type
  | defaultNetworks => List String
  | subnets _ => List Subnet
  | images _ _ => List Image
  | createTemplate _ => String
  | templateId _ => Option String
  | deleteTemplate _ => Unit

abbrev calls : Interface := ⟨Ask, fun q => Except Error q.Result⟩

/-- How a service of the cloud is called: where, and how failed calls are repeated. -/
structure Access where
  region : String
  attempts : Nat
  /-- Whether repetitions slow down when the service is busy. -/
  adaptive : Bool
  deriving DecidableEq, Repr

def Access.ofRegion (region : Option String) : Access := ⟨region.getD defaultRegion, 15, true⟩

/-- The task that makes one call. -/
def call (q : Ask) : Task calls (Except Error q.Result) := .ask q .done

end ScalingTrials.Cloud
