import ScalingTrials.Cloud
import ScalingTrials.Descriptor.Record

/-!
Removing what a descriptor records. The record itself goes only when the template that it names is
gone, so that a failed cleanup can be repeated.
-/

namespace ScalingTrials.Cleanup

open Cloud (calls)

/-- What made a step fail. -/
inductive Cause where
  | record (e : Descriptor.RecordError)
  | cloud (e : Cloud.Error)

def Cause.message : Cause → String
  | record e => e.message
  | cloud e => e.message

/-- How a step went; it is skipped when there is nothing to do. -/
inductive Outcome where
  | done
  | skipped
  | failed (cause : Cause)

namespace Outcome

def isFailed : Outcome → Bool
  | failed _ => true
  | _ => false

def text : Outcome → String
  | done => "done"
  | skipped => "skipped"
  | failed cause => "failed: " ++ cause.message

end Outcome

structure Report where
  descriptor : Outcome
  template : Outcome
  record : Outcome

namespace Report

/-- The steps in order, by name. -/
def steps (r : Report) : List (String × Outcome) :=
  [("load descriptor", r.descriptor), ("delete launch template", r.template),
    ("remove descriptor record", r.record)]

def hasFailures (r : Report) : Bool := r.steps.any fun s => s.2.isFailed

end Report

/-- Loads the descriptor of a directory, if there is a record. -/
def loadStep (fs : Files) (dir : String) : Option Descriptor × Outcome :=
  if fs.present (Descriptor.recordIn dir) then
    match Descriptor.load fs dir with
    | .ok d => (some d, .done)
    | .error e => (none, .failed (.record e))
  else (none, .skipped)

/-- Deletes the template that a descriptor names; one that does not exist is deleted already. -/
def templateStep (d : Option Descriptor) : Task calls Outcome :=
  match d with
  | none => .done .skipped
  | some d =>
    if d.templateId = "" then .done .skipped
    else
      (Cloud.call (.deleteTemplate d.templateId)).bind fun
        | .ok _ => .done .done
        | .error e =>
          if e.hasCode Cloud.noTemplateCode then .done .done else .done (.failed (.cloud e))

/-- Whether nothing that the record names is left. -/
def nothingLeft : Outcome → Outcome → Bool
  | .done, .done => true
  | .done, .skipped => true
  | _, _ => false

/-- Takes the record away. -/
def recordStep (fs : Files) (dir : String) : Outcome × Files :=
  if fs.present (Descriptor.recordIn dir) then
    match Descriptor.discard fs dir with
    | (.ok (), fs) => (.done, fs)
    | (.error e, fs) => (.failed (.record e), fs)
  else (.skipped, fs)

/-- Cleans up what the record of a directory names, and tells how each step went. -/
def cleanup (fs : Files) (dir : String) : Task calls (Report × Files) :=
  let (d, loaded) := loadStep fs dir
  (templateStep d).bind fun deleted =>
    if nothingLeft loaded deleted then
      let (removed, fs) := recordStep fs dir
      .done (⟨loaded, deleted, removed⟩, fs)
    else .done (⟨loaded, deleted, .skipped⟩, fs)

end ScalingTrials.Cleanup
