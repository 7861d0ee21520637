import ScalingTrials.Tag

/-!
Scaling groups as the cloud reports them, and what is expected of one once a step of a trial has
been carried out.
-/

namespace ScalingTrials

structure Group where
  name : String
  min : Int32
  max : Int32
  desired : Int32
  tags : List Tag
  deriving DecidableEq, Repr

/-- What a group must look like. -/
inductive Expectation where
  /-- The group has the name and the sizes of the resource. -/
  | matching
  | desired (n : Int32)
  | bounds (min max : Int32)
  /-- The group carries the required tags of the controller, and of the user just these. -/
  | tags (values : Dictionary)
  | tag (key value : String) (propagated : Bool)
  deriving DecidableEq

namespace Expectation

/-- What is wrong with a group. -/
inductive Mismatch where
  | name (actual expected : String)
  | size (what : String) (actual expected : Int)
  | unspecified (what : String)
  | missingTags (keys : List String)
  | otherTags (actual : List Tag) (expected : Dictionary)
  | noTag (key : String)
  | tagValue (actual expected : String)
  | propagation (actual expected : Bool)

def differs (what actual expected : String) : String :=
  "has " ++ what ++ " " ++ actual ++ ", expected " ++ expected

def Mismatch.message : Mismatch → String
  | name actual expected => differs "name" (Text.quote actual) (Text.quote expected)
  | size what actual expected => differs what (toString actual) (toString expected)
  | unspecified what => "has no " ++ what ++ " in the custom resource spec"
  | missingTags keys => "is missing system tags " ++ Text.quoteList keys
  | otherTags actual expected =>
    "has tags " ++ Tag.describeAll actual ++ ", expected " ++ Text.quotePairs expected.entries ++
      " besides system tags"
  | noTag key => "has no tag '" ++ key ++ "'"
  | tagValue actual expected => differs "tag value" (Text.quote actual) (Text.quote expected)
  | propagation actual expected =>
    differs "propagateAtLaunch" (toString actual) (toString expected)

def minSize : String := "min size"
def maxSize : String := "max size"
def desiredCapacity : String := "desired capacity"

/-- Compares a size with the expected one. -/
def checkSize (what : String) (expected : Int) (actual : Int32) : Except Mismatch Unit :=
  if expected = actual.toInt then .ok () else .error (.size what actual.toInt expected)

/-- Compares a size with what the resource asks for. -/
def checkSpecified (what : String) (expected? : Option Int) (actual : Int32) :
    Except Mismatch Unit :=
  match expected? with
  | some expected => checkSize what expected actual
  | none => .error (.unspecified what)

/-- A member of what a resource asks for. -/
def specified? (resource : Json) (member : String) : Option Json :=
  (resource.get? "spec").bind fun spec => spec.get? member

def specifiedSize? (resource : Json) (member : String) : Option Int :=
  (specified? resource member).bind Json.asInt64?

/-- The name that a resource gives its group. -/
def specifiedName? (resource : Json) : Option String :=
  (specified? resource "autoScalingGroupName").bind Json.asString?

def checkName (expected? : Option String) (actual : String) : Except Mismatch Unit :=
  match expected? with
  | some expected => if expected = actual then .ok () else .error (.name actual expected)
  | none => .ok ()

/-- Judges a group by an expectation and the resource as it was last read. -/
def check (e : Expectation) (g : Group) (resource : Json) : Except Mismatch Unit :=
  match e with
  | matching => do
    let min? := specifiedSize? resource "minSize"
    checkName (specifiedName? resource) g.name
    checkSpecified minSize min? g.min
    checkSpecified maxSize (specifiedSize? resource "maxSize") g.max
    checkSpecified desiredCapacity
      ((specifiedSize? resource "desiredCapacity").or min?) g.desired
  | desired n => checkSize desiredCapacity n.toInt g.desired
  | bounds min max => do
    checkSize minSize min.toInt g.min
    checkSize maxSize max.toInt g.max
  | tags values =>
    match Tag.missingKeys g.tags with
    | [] => if Tag.agree values g.tags then .ok () else .error (.otherTags g.tags values)
    | keys => .error (.missingTags keys)
  | tag key value propagated =>
    match Tag.find? g.tags key with
    | none => .error (.noTag key)
    | some t =>
      if t.value ≠ value then .error (.tagValue t.value value)
      else if t.propagated ≠ propagated then .error (.propagation t.propagated propagated)
      else .ok ()

end Expectation

end ScalingTrials
