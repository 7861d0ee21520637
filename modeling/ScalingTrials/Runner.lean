import ScalingTrials.Manifest
import ScalingTrials.Naming
import ScalingTrials.Replacements
import ScalingTrials.Settings
import ScalingTrials.Site
import ScalingTrials.Trial

/-!
Running trials: a resource is made from a manifest under a fresh name, changed step by step and
deleted again whatever happens.
-/

namespace ScalingTrials

/-- What a runner works with. -/
structure Runner where
  values : Dictionary
  manifestDir : String
  scope : String
  settle : Span
  ownerPoller : Poller
  deletePoller : Poller
  absencePoller : Poller

/-- A resource that was made for a trial, as it was when the controller had taken it over. -/
structure Fixture where
  handle : Handle
  resource : Json

namespace Fixture

/-- The name of the group: the one that the resource gives, or its own. -/
def groupName (f : Fixture) : String :=
  (Expectation.specifiedName? f.resource).getD f.handle.name

end Fixture

namespace Runner

open Site (Work)

/-- The manifest that every trial starts from. -/
def manifestName : String := "auto_scaling_group"

/-- No generated name is longer. -/
def nameLimit : Nat := 32

/-- How long a controller is given to notice a change. -/
def settleTime : Span := .ofSeconds 5

def absenceAttempts : Nat := 120

def ofValues (values : Dictionary) : Runner where
  values := values
  manifestDir := Settings.shippedManifests
  scope := Handle.defaultScope
  settle := settleTime
  ownerPoller := ⟨15, .ofSeconds 2⟩
  deletePoller := .sync 3
  absencePoller := .sync absenceAttempts

/-- A runner with the values of the directory that the settings name. -/
def ofSettings (fs : Files) (s : Settings) : Runner :=
  { ofValues (Replacements.resolve fs s.recordDir).values with
    manifestDir := s.manifestDir
    scope := s.scope }

/-- Why a trial fails. -/
inductive Failure where
  | manifest (name : String) (cause : Manifest.Failure)
  | creation (h : Handle) (cause : Site.Error)
  | notOwned (h : Handle)
  | missing (h : Handle)
  | change (h : Handle) (cause : Site.Error)
  | notSynced (h : Handle) (attempts : Nat)
  | description (name : String) (cause : Cloud.Error)
  | groupCount (name : String) (count : Nat)
  | mismatch (name : String) (cause : Expectation.Mismatch)
  | deletion (h : Handle) (cause : Site.Error)
  | notDeleted (h : Handle) (attempts : Nat)
  | stillPresent (name : String) (seconds : Nat)

def Failure.message : Failure → String
  | manifest name cause => "Unable to render manifest '" ++ name ++ "': " ++ cause.message
  | creation h cause => "Unable to create " ++ h.display ++ ": " ++ cause.message
  | notOwned h => h.display ++ " was not consumed by the controller"
  | missing h => h.display ++ " does not exist"
  | change h cause => "Unable to patch " ++ h.display ++ ": " ++ cause.message
  | notSynced h attempts =>
    h.display ++ " did not sync within " ++ toString attempts ++ " attempts"
  | description name cause =>
    "Unable to describe auto scaling group '" ++ name ++ "': " ++ cause.message
  | groupCount name count =>
    "Expected 1 auto scaling group named '" ++ name ++ "', found " ++ toString count
  | mismatch name cause => "Auto scaling group '" ++ name ++ "' " ++ cause.message
  | deletion h cause => "Unable to delete " ++ h.display ++ ": " ++ cause.message
  | notDeleted h attempts =>
    h.display ++ " was not deleted within " ++ toString attempts ++ " attempts"
  | stillPresent name seconds =>
    "Auto scaling group '" ++ name ++ "' still exists after " ++ toString seconds ++ " seconds"

/-- The body of a resource under a name. -/
def body (r : Runner) (fs : Files) (name : String) : Except Failure Json :=
  let m := ((Manifest.named manifestName).withValues r.values.entries).withValue
    Replacements.groupNameKey name
  match m.render fs r.manifestDir with
  | .ok body => .ok body
  | .error e => .error (.manifest manifestName e)

/-- Removes the resource as far as that is possible; what goes wrong is passed over. -/
def tearDown (r : Runner) (h : Handle) : Work Unit :=
  (Site.deleteAndWait h r.deletePoller).bind fun _ => .done ()

/-- Waits until the controller has taken the resource over. -/
def awaitOwned (r : Runner) (h : Handle) : Work (Except Failure Json) :=
  (Site.awaitOwner h r.ownerPoller).bind fun
    | none => .done (.error (.notOwned h))
    | some resource => (Site.isThere h).bind fun there =>
      .done (if there then .ok resource else .error (.missing h))

/-- Makes a resource with a body and waits for its controller; one that is not taken over is removed
again. -/
def make (r : Runner) (h : Handle) (body : Json) : Work (Except Failure Fixture) :=
  (Site.call (.create h body)).bind fun
    | .error e => .done (.error (.creation h e))
    | .ok _ => (r.awaitOwned h).bind fun
      | .ok resource => .done (.ok ⟨h, resource⟩)
      | .error e => (r.tearDown h).bind fun _ => .done (.error e)

/-- The handle of a resource with a fresh name. -/
def freshHandle (r : Runner) (draws : Nat → Naming.Draw) (beginning : String) : Handle :=
  (Handle.ofScalingGroup (Naming.generate draws beginning nameLimit).1).within r.scope

/-- Makes a resource from the manifest under a fresh name. -/
def createFixture (r : Runner) (fs : Files) (draws : Nat → Naming.Draw) (beginning : String) :
    Work (Except Failure Fixture) :=
  let h := r.freshHandle draws beginning
  match r.body fs h.name with
  | .error e => .done (.error e)
  | .ok body => r.make h body

/-- The only group of a name. -/
def describe (name : String) : Work (Except Failure Group) :=
  (Site.call (.describe name)).bind fun
    | .error e => .done (.error (.description name e))
    | .ok [g] => .done (.ok g)
    | .ok groups => .done (.error (.groupCount name groups.length))

/-- Makes the change of a step, if it has one, and gives the controller time to notice. -/
def applyChange (r : Runner) (h : Handle) : Option Json → Work (Except Failure Unit)
  | none => .done (.ok ())
  | some change =>
    (Site.call (.patch h change)).bind fun
      | .error e => .done (.error (.change h e))
      | .ok _ => (Task.pause r.settle).bind fun _ => .done (.ok ())

def awaitSynced (h : Handle) (attempts : Nat) : Work (Except Failure Unit) :=
  (Site.await h (.synced attempts)).bind fun synced =>
    .done (if synced then .ok () else .error (.notSynced h attempts))

def readAgain (h : Handle) : Work (Except Failure Json) :=
  (Site.read? h).bind fun
    | some resource => .done (.ok resource)
    | none => .done (.error (.missing h))

/-- Carries out one step and compares the group that results. -/
def runStep (r : Runner) (f : Fixture) (s : Step) : Work (Except Failure Group) :=
  (r.applyChange f.handle s.change).andThen fun _ =>
  (awaitSynced f.handle s.attempts).andThen fun _ =>
  (readAgain f.handle).andThen fun resource =>
  (describe f.groupName).andThen fun g =>
    match s.expectation.check g resource with
    | .ok () => .done (.ok g)
    | .error e => .done (.error (.mismatch g.name e))

/-- Carries out steps in order up to the first that fails. -/
def runSteps (r : Runner) (f : Fixture) : List Step → Work (Except Failure Unit)
  | [] => .done (.ok ())
  | s :: rest => (r.runStep f s).andThen fun _ => r.runSteps f rest

/-- The names of the groups that the cloud lists under a name. -/
def listed (name : String) : Work (Except Cloud.Error (List String)) :=
  (Site.call (.describe name)).bind fun
    | .ok groups => .done (.ok (groups.map fun g => g.name))
    | .error e => .done (.error e)

/-- The longest that a poller sleeps, in whole seconds. -/
def longestSeconds (p : Poller) : Nat := p.interval.toNanos * (p.attempts - 1) / nanosPerSecond

/-- Waits until the cloud lists the group of a fixture no longer. -/
def confirmAbsence (r : Runner) (f : Fixture) : Work (Except Failure Unit) :=
  (awaitAbsence (listed f.groupName) f.groupName r.absencePoller).bind fun absent =>
    .done (if absent then .ok ()
      else .error (.stillPresent f.groupName (longestSeconds r.absencePoller)))

/-- Deletes a fixture and waits until its group is gone. -/
def deleteAndConfirm (r : Runner) (f : Fixture) : Work (Except Failure Unit) :=
  (Site.deleteAndWait f.handle r.deletePoller).bind fun
    | .error e => .done (.error (.deletion f.handle e))
    | .ok false => .done (.error (.notDeleted f.handle r.deletePoller.attempts))
    | .ok true => r.confirmAbsence f

/-- Ends a trial whose steps all went well. -/
def finish (r : Runner) (t : Trial) (f : Fixture) : Work (Except Failure Unit) :=
  if t.confirmsDeletion then r.deleteAndConfirm f
  else (r.tearDown f.handle).bind fun _ => .done (.ok ())

/-- Runs a trial from the making of its resource to the removal. -/
def run (r : Runner) (fs : Files) (draws : Nat → Naming.Draw) (t : Trial) :
    Work (Except Failure Unit) :=
  (r.createFixture fs draws t.beginning).andThen fun f =>
    (r.runSteps f t.steps).bind fun
      | .error e => (r.tearDown f.handle).bind fun _ => .done (.error e)
      | .ok () => r.finish t f

end Runner

end ScalingTrials
