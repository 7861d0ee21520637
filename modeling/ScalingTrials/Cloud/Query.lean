import ScalingTrials.Cloud
import ScalingTrials.Group

/-!
Calls of the cloud as form parameters, and the records of its replies as results. A record without
an id counts only where nothing else could tell it apart.
-/

namespace ScalingTrials.Cloud

/-- What becomes of a request: it cannot be made for want of credentials, it does not arrive, the
service refuses it, or it brings records. -/
inductive Reply where
  | notMade
  | undelivered
  | refused (code : Option String)
  | answered (content : Json)

namespace Query

/-- The records that a reply brings, or what is said of a request that brings none. -/
def content (operation : String) : Reply → Except Error Json
  | .notMade => .error ⟨operation, none, "failed to construct request"⟩
  | .undelivered => .error ⟨operation, none, "dispatch failure"⟩
  | .refused code => .error ⟨operation, code, "service error"⟩
  | .answered content => .ok content

def operation : Ask → String
  | .defaultNetworks => "DescribeVpcs"
  | .subnets _ => "DescribeSubnets"
  | .images _ _ => "DescribeImages"
  | .createTemplate _ => "CreateLaunchTemplate"
  | .templateId _ => "DescribeLaunchTemplates"
  | .deleteTemplate _ => "DeleteLaunchTemplate"

/-- The parameters of a filter on one value. -/
def filter (index : Nat) (name value : String) : List (String × String) :=
  let start := "Filter." ++ toString index
  [(start ++ ".Name", name), (start ++ ".Value.1", value)]

/-- The parameters of tags, numbered from one. -/
def tags (start : String) (pairs : List (String × String)) : List (String × String) :=
  (pairs.zipIdx 1).flatMap fun (p, i) =>
    let tag := start ++ ".Tag." ++ toString i
    [(tag ++ ".Key", p.1), (tag ++ ".Value", p.2)]

/-- The parameters of a call beside its operation. -/
def arguments : Ask → List (String × String)
  | .defaultNetworks => filter 1 "isDefault" "true"
  | .subnets network => filter 1 "vpc-id" network
  | .images owner pattern =>
    filter 1 "name" pattern ++ filter 2 "state" "available" ++ [("Owner.1", owner)]
  | .createTemplate r =>
    [("LaunchTemplateName", r.name), ("LaunchTemplateData.ImageId", r.image),
      ("LaunchTemplateData.InstanceType", r.instanceType),
      ("LaunchTemplateData.TagSpecification.1.ResourceType", "instance")] ++
    tags "LaunchTemplateData.TagSpecification.1" r.instanceTags ++
    [("TagSpecification.1.ResourceType", "launch-template")] ++
    tags "TagSpecification.1" r.templateTags
  | .templateId name => [("LaunchTemplateName.1", name)]
  | .deleteTemplate id => [("LaunchTemplateId", id)]

def parameters (q : Ask) : List (String × String) := ("Action", operation q) :: arguments q

/-- The records of a reply; one that has none leaves them out. -/
def records (content : Json) : List Json := content.asArray?.getD []

/-- A text of a record. -/
def text? (record : Json) (member : String) : Option String :=
  (record.get? member).bind Json.asString?

def readSubnet? (record : Json) : Option Subnet :=
  (text? record "subnetId").map fun id => ⟨id, text? record "availabilityZone"⟩

def readImage? (record : Json) : Option Image :=
  (text? record "imageId").map fun id => ⟨id, text? record "creationDate"⟩

/-- The result that the records of a reply give. -/
def read (content : Json) : (q : Ask) → Except Error q.Result
  | .defaultNetworks => .ok ((records content).filterMap fun r => text? r "vpcId")
  | .subnets _ => .ok ((records content).filterMap readSubnet?)
  | .images _ _ => .ok ((records content).filterMap readImage?)
  | .createTemplate r =>
    match text? content "launchTemplateId" with
    | some id => .ok id
    | none =>
      .error ⟨operation (.createTemplate r), none,
        "the response did not include a launch template id"⟩
  | .templateId _ => .ok ((records content).findSome? fun r => text? r "launchTemplateId")
  | .deleteTemplate _ => .ok ()

/-- The answer to a call. -/
def answer (q : Ask) (r : Reply) : Except Error q.Result :=
  match content (operation q) r with
  | .error e => .error e
  | .ok content => read content q

/-- The operation that describes groups. -/
def describeOperation : String := "DescribeAutoScalingGroups"

/-- The parameters that ask for the groups of a name. -/
def describeParameters (name : String) : List (String × String) :=
  [("Action", describeOperation), ("AutoScalingGroupNames.member.1", name)]

/-- A size in a record, or zero. -/
def size (record : Json) (member : String) : Int32 :=
  Int32.ofInt (((record.get? member).bind Json.asInt64?).getD 0)

def readTag (record : Json) : Tag :=
  ⟨(text? record "Key").getD "", (text? record "Value").getD "",
    ((record.get? "PropagateAtLaunch").bind Json.asBool?).getD false⟩

def readGroup (record : Json) : Group :=
  ⟨(text? record "AutoScalingGroupName").getD "", size record "MinSize", size record "MaxSize",
    size record "DesiredCapacity", (records ((record.get? "Tags").getD .null)).map readTag⟩

/-- The groups that a reply describes. -/
def describeAnswer (r : Reply) : Except Error (List Group) :=
  (content describeOperation r).map fun content => (records content).map readGroup

end Query

end ScalingTrials.Cloud
