import ScalingTrials.Proofs.Controller
import ScalingTrials.Proofs.Runner.Verdict

/-! # Trials of a lagging controller

Against a controller that lags, each wait of a trial succeeds just if it makes more attempts
than the controller lets pass. Whatever becomes of the trial, its resource is removed. -/

namespace ScalingTrials.Runner

open Poller (Lags)
open ScalingTrials.Task (Hinges outcome outcome_bind_of outcome_andThen_ok)
open Site (Work)
open World (Asks Names cleared holding project withStatus falseStatus)

variable {r : Runner} {h : Handle} {s l : Nat} {object : Json} {spec : List (String × Json)}
  {left? : Option Nat} {groups : String → Option Group} {g : Group} {name : String}

/-! ### Reading -/

theorem outcome_read? {w w' : World} {answer : Except Site.Error Json}
    (hw : w.reply (.get h) = (answer, w')) :
    outcome World.reply (Site.read? h) w = (answer.toOption, w') := by
  rw [Site.read?, outcome_bind_of (World.outcome_call hw)]
  cases answer <;> rfl

/-- The resource as it is read while its controller has not taken it over yet. -/
theorem outcome_read?_late (left : Nat) :
    outcome World.reply (Site.read? h) (holding s l h object (some (left + 1)) groups) =
      (some object, holding s l h object (some left) groups) :=
  outcome_read? World.reply_get_late

theorem outcome_read?_due (groups : String → Option Group) (hask : Asks object spec)
    (hg : project (.obj spec) h.scope = some g) :
    outcome World.reply (Site.read? h) (holding s l h object (some 0) groups) =
      (some (withStatus Condition.trueStatus object),
        holding s l h (withStatus Condition.trueStatus object) none
          (Function.update groups g.name (some g))) :=
  outcome_read? (World.reply_get_due (hask.specOf ▸ hg))

theorem outcome_read?_rest :
    outcome World.reply (Site.read? h) (holding s l h object none groups) =
      (some object, holding s l h object none groups) :=
  outcome_read? World.reply_get_rest

/-- A world in which the resource still is, whatever became of it. -/
def Held (s l : Nat) (h : Handle) (w : World) : Prop :=
  ∃ object left? groups, w = holding s l h object left? groups

theorem held_holding : Held s l h (holding s l h object left? groups) :=
  ⟨object, left?, groups, rfl⟩

/-- A world in which the controller has taken over what the resource asks for. -/
def Settled (s l : Nat) (h : Handle) (name : String) (spec : List (String × Json)) (g : Group)
    (w : World) : Prop :=
  Names spec name ∧ g.name = name ∧
    ∃ object groups, w = holding s l h (withStatus Condition.trueStatus object) none groups ∧
      Asks object spec ∧ groups name = some g

theorem settled_holding (groups : String → Option Group) (hask : Asks object spec)
    (hg : project (.obj spec) h.scope = some g) (hname : Names spec name) :
    Settled s l h name spec g (holding s l h (withStatus Condition.trueStatus object) none
      (Function.update groups g.name (some g))) :=
  ⟨hname, hname.eq_of_project hg, object, _, rfl, hask,
    by rw [hname.eq_of_project hg, Function.update_self]⟩

theorem Settled.reads {w : World} (hw : Settled s l h name spec g w) :
    ∃ object, Asks object spec ∧ outcome World.reply (Site.read? h) w =
      (some (withStatus Condition.trueStatus object), w) := by
  obtain ⟨-, -, object, groups, rfl, hask, -⟩ := hw
  exact ⟨object, hask, outcome_read?_rest⟩

theorem Settled.describes {w : World} (hw : Settled s l h name spec g w) :
    w.reply (.describe name) = (.ok [g], w) := by
  obtain ⟨-, -, object, groups, rfl, -, hgroup⟩ := hw
  rw [World.reply_describe, hgroup]
  rfl

theorem Settled.held {w : World} (hw : Settled s l h name spec g w) : Held s l h w := by
  obtain ⟨-, -, object, groups, rfl, -, -⟩ := hw
  exact held_holding

/-! ### The owner -/

theorem hinges_awaitOwned (hask : Asks object spec) (hnew : object.get? "status" = none)
    (hg : project (.obj spec) h.scope = some g) (hname : Names spec name) :
    Hinges World.reply (s < r.ownerPoller.attempts) (r.awaitOwned h)
      (holding s l h object (some s) groups)
      (fun resource w => resource = withStatus Condition.trueStatus object ∧
        Settled s l h name spec g w)
      (Held s l h) := by
  have hlags : Lags World.reply
      ((Site.read? h).bind fun found =>
        .done (found.filter fun resource => (resource.get? "status").isSome))
      (fun left => holding s l h object (some left) groups) s
      (withStatus Condition.trueStatus object)
      (holding s l h (withStatus Condition.trueStatus object) none
        (Function.update groups g.name (some g))) := by
    constructor
    · intro left _
      rw [outcome_bind_of (outcome_read?_late left)]
      simp [hnew]
    · rw [outcome_bind_of (outcome_read?_due groups hask hg)]
      simp [hask.get?_status]
  have hsettled := settled_holding (s := s) (l := l) groups hask hg hname
  refine .of_ite (Poller.outcome_findAfterDelay hlags r.ownerPoller) ⟨_, _, ?_, rfl, hsettled⟩
    ⟨_, _, rfl, held_holding⟩
  dsimp only
  rw [Site.isThere, Task.bind_bind, outcome_bind_of outcome_read?_rest]
  rfl

/-! ### A step -/

theorem outcome_condition? {w w' : World} {resource? : Option Json} {kind : String}
    (hread : outcome World.reply (Site.read? h) w = (resource?, w')) :
    outcome World.reply (Site.condition? h kind) w =
      (resource?.bind fun resource => Condition.find? resource kind, w') := by
  rw [Site.condition?, outcome_bind_of hread]
  rfl

/-- One look at whether a resource is synced. -/
def lookSynced (h : Handle) : Work Bool :=
  (Site.condition? h Condition.syncedKind).bind fun found =>
    .done (found.bind Condition.statusOf? == some Condition.trueStatus)

theorem awaitSynced_eq (h : Handle) (attempts : Nat) :
    awaitSynced h attempts = ((Poller.sync attempts).await (lookSynced h)).bind fun synced =>
      .done (if synced then .ok () else .error (.notSynced h attempts)) := rfl

theorem outcome_lookSynced {w w' : World} {status : String} (hask : Asks object spec)
    (hread : outcome World.reply (Site.read? h) w = (some (withStatus status object), w')) :
    outcome World.reply (lookSynced h) w = (status == Condition.trueStatus, w') := by
  rw [lookSynced, outcome_bind_of (outcome_condition? hread), Task.outcome_done, Option.bind_some,
    hask.statusOf status]
  rfl

/-- A resource that the controller has yet to take over is synced in time or not at all. -/
theorem hinges_awaitSynced (groups : String → Option Group) (attempts : Nat)
    (hask : Asks object spec) (hg : project (.obj spec) h.scope = some g)
    (hname : Names spec name) :
    Hinges World.reply (s < attempts) (awaitSynced h attempts)
      (holding s l h (withStatus falseStatus object) (some s) groups)
      (fun _ => Settled s l h name spec g) (Held s l h) := by
  have hdue := outcome_lookSynced (hask.withStatus falseStatus)
    (outcome_read?_due (s := s) (l := l) groups (hask.withStatus falseStatus) hg)
  have hawait := Poller.outcome_await
    (fun left => holding s l h (withStatus falseStatus object) (some left) groups)
    (fun left (_ : left < s) => outcome_lookSynced hask (outcome_read?_late left)) hdue
    (Poller.sync attempts)
  exact .of_ite hawait ⟨(), _, rfl, settled_holding groups (hask.withStatus _) hg hname⟩
    ⟨_, _, rfl, held_holding⟩

/-- A resource that asks for nothing but a specification. -/
def asking (spec : List (String × Json)) : Json := .obj [("spec", .obj spec)]

/-- Groups are judged by the specification alone. -/
theorem check_of_asks (hask : Asks object spec) (e : Expectation) (g : Group) :
    e.check g object = e.check g (asking spec) := by
  have hspecified : ∀ member, Expectation.specified? object member =
      Expectation.specified? (asking spec) member := by
    intro member
    rw [Expectation.specified?, hask]
    rfl
  have hsize : ∀ member, Expectation.specifiedSize? object member =
      Expectation.specifiedSize? (asking spec) member := by
    intro member
    rw [Expectation.specifiedSize?, hspecified, Expectation.specifiedSize?]
  have hnamed : Expectation.specifiedName? object = Expectation.specifiedName? (asking spec) := by
    rw [Expectation.specifiedName?, hspecified, Expectation.specifiedName?]
  cases e with
  | matching => simp only [Expectation.check, hsize, hnamed]
  | _ => rfl

/-- The end of a step: the resource and the group are read again and compared. -/
def compare (f : Fixture) (step : Step) : Work (Except Failure Group) :=
  (readAgain f.handle).andThen fun resource =>
  (describe f.groupName).andThen fun g =>
    match step.expectation.check g resource with
    | .ok () => .done (.ok g)
    | .error e => .done (.error (.mismatch g.name e))

theorem runStep_eq (f : Fixture) (step : Step) :
    r.runStep f step = (r.applyChange f.handle step.change).andThen fun _ =>
      (awaitSynced f.handle step.attempts).andThen fun _ => compare f step := rfl

variable {f : Fixture} {step : Step} {w : World}

theorem outcome_compare (hf : f.groupName = name) (hw : Settled s l f.handle name spec g w)
    (hcheck : step.expectation.check g (asking spec) = .ok ()) :
    outcome World.reply (compare f step) w = (.ok g, w) := by
  obtain ⟨object, hask, hread⟩ := hw.reads
  have hagain : outcome World.reply (readAgain f.handle) w =
      (.ok (withStatus Condition.trueStatus object), w) := by
    rw [readAgain, outcome_bind_of hread]
    rfl
  have hdescribe : outcome World.reply (describe f.groupName) w = (.ok g, w) := by
    rw [hf, describe, outcome_bind_of (World.outcome_call hw.describes)]
    rfl
  have hjudged := (check_of_asks (hask.withStatus Condition.trueStatus) _ g).trans hcheck
  rw [compare, outcome_andThen_ok hagain, outcome_andThen_ok hdescribe, hjudged]
  rfl

/-- A step without a change passes where nothing is left to take over. -/
theorem hinges_runStep_rest (hf : f.groupName = name) (hw : Settled s l f.handle name spec g w)
    (hchange : step.change = none) (hattempts : 0 < step.attempts)
    (hcheck : step.expectation.check g (asking spec) = .ok ()) :
    Hinges World.reply True (r.runStep f step) w
      (fun _ => Settled s l f.handle name spec g) (Held s l f.handle) := by
  obtain ⟨object, hask, hread⟩ := hw.reads
  have hawait := Poller.outcome_await (fun _ => w) (fun left (hleft : left < 0) => nomatch hleft)
    (outcome_lookSynced hask hread) (Poller.sync step.attempts)
  have hsynced : outcome World.reply (awaitSynced f.handle step.attempts) w = (.ok (), w) := by
    rw [if_pos (show 0 < (Poller.sync step.attempts).attempts from hattempts)] at hawait
    rw [awaitSynced_eq, outcome_bind_of hawait]
    rfl
  have hchanged : outcome World.reply (r.applyChange f.handle none) w = (.ok (), w) := rfl
  have hstep : outcome World.reply (r.runStep f step) w = (.ok g, w) := by
    rw [runStep_eq, hchange, outcome_andThen_ok hchanged, outcome_andThen_ok hsynced,
      outcome_compare hf hw hcheck]
  exact .of_ok hstep hw

theorem outcome_applyChange {change answer : Json} {w w' : World}
    (hpatch : w.reply (.patch h change) = (.ok answer, w')) :
    outcome World.reply (r.applyChange h (some change)) w = (.ok (), w') := by
  rw [applyChange, outcome_bind_of (World.outcome_call hpatch)]
  rfl

/-- A step with a change passes if the controller takes it over within its attempts. -/
theorem hinges_runStep_change {changes : List (String × Json)} {g' : Group}
    (hf : f.groupName = name) (hw : Settled s l f.handle name spec g w)
    (hchange : step.change = some (Trial.specChange changes))
    (hg : project (.obj (Json.mergeMembers spec changes)) f.handle.scope = some g')
    (hname : Names (Json.mergeMembers spec changes) name)
    (hcheck : step.expectation.check g' (asking (Json.mergeMembers spec changes)) = .ok ()) :
    Hinges World.reply (s < step.attempts) (r.runStep f step) w
      (fun _ => Settled s l f.handle name (Json.mergeMembers spec changes) g')
      (Held s l f.handle) := by
  -- The change puts the controller behind by its whole lag, whatever it had taken over before.
  obtain ⟨-, -, object, groups, rfl, hask, -⟩ := hw
  have hmerged := (hask.withStatus Condition.trueStatus).merge changes
  have hsynced := hinges_awaitSynced (s := s) (l := l) groups step.attempts hmerged hg hname
  rw [runStep_eq, hchange]
  refine .after (outcome_applyChange (World.reply_patch groups _ none _)) ?_
  exact hsynced.andThen_ok fun _ w' hw' => ⟨g', w', outcome_compare hf hw' hcheck, hw'⟩

/-! ### Steps in order -/

/-- Steps that a controller can go along with: each change asks for sizes that the cloud
accepts, and the group that results is the expected one. -/
inductive Planned (scope name : String) :
    List (String × Json) → Group → List Step → Prop where
  | done {spec : List (String × Json)} {g : Group} : Planned scope name spec g []
  | rest {spec : List (String × Json)} {g : Group} {step : Step} {steps : List Step} :
      step.change = none → 0 < step.attempts →
      step.expectation.check g (asking spec) = .ok () →
      Planned scope name spec g steps → Planned scope name spec g (step :: steps)
  | change {spec changes : List (String × Json)} {g : Group} {step : Step} {steps : List Step}
      (g' : Group) : step.change = some (Trial.specChange changes) →
      project (.obj (Json.mergeMembers spec changes)) scope = some g' →
      Names (Json.mergeMembers spec changes) name →
      step.expectation.check g' (asking (Json.mergeMembers spec changes)) = .ok () →
      Planned scope name (Json.mergeMembers spec changes) g' steps →
      Planned scope name spec g (step :: steps)

/-- Whether a controller takes every change over within the attempts of its step. -/
def InTime (s : Nat) (steps : List Step) : Prop :=
  ∀ step ∈ steps, step.change.isSome = true → s < step.attempts

theorem hinges_runSteps {steps : List Step} (hp : Planned f.handle.scope name spec g steps)
    (hf : f.groupName = name) (hw : Settled s l f.handle name spec g w) :
    Hinges World.reply (InTime s steps) (r.runSteps f steps) w
      (fun _ w => ∃ spec g, Settled s l f.handle name spec g w) (Held s l f.handle) := by
  -- Along the plan, the world is settled before each step with what the steps have asked for.
  induction hp generalizing w with
  | @done spec g =>
      have hnone : True ↔ InTime s [] := by simp [InTime]
      exact (Hinges.of_ok (a := ()) rfl ⟨spec, g, hw⟩).congr hnone
  | rest hchange hattempts hcheck _ ih =>
      have hstep := hinges_runStep_rest (r := r) hf hw hchange hattempts hcheck
      refine (hstep.andThen fun _ _ hw' => ih hw').congr ?_
      simp [InTime, hchange]
  | change g' hchange hg hname hcheck _ ih =>
      have hstep := hinges_runStep_change (r := r) hf hw hchange hg hname hcheck
      refine (hstep.andThen fun _ _ hw' => ih hw').congr ?_
      simp [InTime, hchange]

/-! ### The removal -/

/-- A world that holds no resource. -/
def Vacant (w : World) : Prop := ∀ name, w.objects name = none

variable {deleting : String → Option Nat}

theorem vacant_cleared : Vacant (cleared s l groups deleting) := fun _ => rfl

theorem outcome_deleteAndWait
    (hdelete : w.reply (.delete h) = (.ok (), cleared s l groups deleting)) (p : Poller) :
    outcome World.reply (Site.deleteAndWait h p) w =
      (.ok (decide (0 < p.attempts)), cleared s l groups deleting) := by
  have hgone : outcome World.reply (Site.gone h) (cleared s l groups deleting) =
      (some (), cleared s l groups deleting) := by
    rw [Site.gone, outcome_bind_of (World.outcome_call World.reply_get_cleared)]
    rfl
  have hlags : Lags World.reply (Site.gone h) (fun _ => cleared s l groups deleting) 0 ()
      (cleared s l groups deleting) := ⟨by simp, hgone⟩
  rw [Site.deleteAndWait, outcome_bind_of (World.outcome_call hdelete)]
  dsimp only
  rw [Task.outcome_bind, Poller.outcome_findAfterDelay hlags p]
  by_cases hp : 0 < p.attempts
  · rw [if_pos hp, decide_eq_true hp]
    rfl
  · rw [if_neg hp, decide_eq_false hp]
    rfl

/-- A resource that is still there is removed by tearing down. -/
theorem Held.tearDown (hw : Held s l h w) (r : Runner) :
    ∃ w', outcome World.reply (r.tearDown h) w = ((), w') ∧ Vacant w' := by
  obtain ⟨object, left?, groups, rfl⟩ := hw
  have hdeleted := outcome_deleteAndWait (h := h)
    (World.reply_delete (s := s) (l := l) groups object left?) r.deletePoller
  exact ⟨_, outcome_bind_of hdeleted _, vacant_cleared⟩

theorem outcome_listed {w' : World} {found : List Group}
    (hw : w.reply (.describe name) = (.ok found, w')) :
    outcome World.reply (listed name) w = (.ok (found.map fun g => g.name), w') := by
  rw [listed, outcome_bind_of (World.outcome_call hw)]
  rfl

/-- One look at whether a group is listed no longer. -/
def lookAbsent (name : String) : Work Bool :=
  (listed name).bind fun
    | .ok names => .done (!names.any fun n => n = name)
    | .error _ => .done false

theorem confirmAbsence_eq (f : Fixture) :
    r.confirmAbsence f = (r.absencePoller.await (lookAbsent f.groupName)).bind fun absent =>
      .done (if absent then .ok ()
        else .error (.stillPresent f.groupName (longestSeconds r.absencePoller))) := rfl

theorem outcome_lookAbsent {w' : World} {found : List Group}
    (hw : w.reply (.describe name) = (.ok found, w')) :
    outcome World.reply (lookAbsent name) w = (!found.any fun g => g.name = name, w') := by
  rw [lookAbsent, outcome_bind_of (outcome_listed hw)]
  simp [List.any_map, Function.comp_def]

/-- The absence of a group is confirmed just if the group is gone within the attempts. -/
theorem hinges_confirmAbsence (hgroup : groups f.groupName = some g)
    (hname : g.name = f.groupName) :
    Hinges World.reply (l < r.absencePoller.attempts) (r.confirmAbsence f)
      (cleared s l groups (Function.update (fun _ => none) f.groupName (some l)))
      (fun _ => Vacant) Vacant := by
  have hwaits : ∀ left < l, outcome World.reply (lookAbsent f.groupName)
      (cleared s l groups (Function.update (fun _ => none) f.groupName (some (left + 1)))) =
        (false, cleared s l groups (Function.update (fun _ => none) f.groupName (some left))) := by
    intro left _
    rw [outcome_lookAbsent World.reply_describe_late, hgroup]
    simp [hname]
  have hcomes := outcome_lookAbsent
    (World.reply_describe_due (s := s) (l := l) groups (fun _ => none) f.groupName)
  have hawait := Poller.outcome_await
    (fun left => cleared s l groups (Function.update (fun _ => none) f.groupName (some left)))
    hwaits hcomes r.absencePoller
  rw [confirmAbsence_eq]
  exact .of_ite hawait ⟨(), _, rfl, vacant_cleared⟩ ⟨_, _, rfl, vacant_cleared⟩

theorem hinges_deleteAndConfirm (hf : f.groupName = name)
    (hw : Settled s l f.handle name spec g w) (hdelete : 0 < r.deletePoller.attempts) :
    Hinges World.reply (l < r.absencePoller.attempts) (r.deleteAndConfirm f) w
      (fun _ => Vacant) Vacant := by
  obtain ⟨hname, hg, object, groups, rfl, hask, hgroup⟩ := hw
  have hdeleted := outcome_deleteAndWait (h := f.handle)
    (World.reply_delete (s := s) (l := l) groups (withStatus Condition.trueStatus object) none)
    r.deletePoller
  rw [decide_eq_true hdelete,
    World.deletionsWith_of_asks (hask.withStatus Condition.trueStatus) hname, ← hf] at hdeleted
  exact .after hdeleted (hinges_confirmAbsence (hf ▸ hgroup) (hg.trans hf.symm))

theorem hinges_finish {t : Trial} (hf : f.groupName = name)
    (hw : Settled s l f.handle name spec g w) (hdelete : 0 < r.deletePoller.attempts) :
    Hinges World.reply (t.confirmsDeletion = true → l < r.absencePoller.attempts) (r.finish t f) w
      (fun _ => Vacant) Vacant := by
  unfold finish
  by_cases hconfirms : t.confirmsDeletion = true
  · rw [if_pos hconfirms]
    exact (hinges_deleteAndConfirm hf hw hdelete).congr (by simp [hconfirms])
  · rw [if_neg hconfirms]
    obtain ⟨w', htear, hvacant⟩ := hw.held.tearDown r
    exact (Hinges.of_ok (outcome_bind_of htear _) hvacant).congr (by simp [hconfirms])

/-! ### A whole trial -/

theorem groupName_of_asks {resource : Json} (hask : Asks resource spec) (hname : Names spec name) :
    (Fixture.mk h resource).groupName = name := by
  have hspecified : Expectation.specifiedName? resource = some name := by
    rw [Expectation.specifiedName?, Expectation.specified?, hask]
    exact hname.get?
  rw [Fixture.groupName, hspecified]
  rfl

theorem hinges_phases {t : Trial} (hask : Asks object spec) (hnew : object.get? "status" = none)
    (hg : project (.obj spec) h.scope = some g) (hname : Names spec name)
    (hp : Planned h.scope name spec g t.steps) :
    Hinges World.reply (s < r.ownerPoller.attempts ∧ InTime s t.steps) (r.phases t h)
      (holding s l h object (some s) groups)
      (fun f w => f.handle = h ∧ f.groupName = name ∧ ∃ spec g, Settled s l h name spec g w)
      (Held s l h) := by
  refine (hinges_awaitOwned hask hnew hg hname).andThen ?_
  rintro resource w ⟨rfl, hw⟩
  have hf := groupName_of_asks (h := h) (hask.withStatus Condition.trueStatus) hname
  refine (hinges_runSteps (f := ⟨h, withStatus Condition.trueStatus object⟩) hp hf hw).andThen_ok ?_
  intro _ w' hw'
  exact ⟨_, w', rfl, rfl, hf, hw'⟩

/-- A trial whose body the controller can go along with succeeds just if each wait has
attempts enough, and leaves no resource behind. -/
theorem hinges_run {fs : Files} {draws : Nat → Naming.Draw} {t : Trial}
    (hbody : r.body fs (r.freshHandle draws t.beginning).name = .ok object)
    (hask : Asks object spec) (hnew : object.get? "status" = none)
    (hg : project (.obj spec) r.scope = some g) (hname : Names spec name)
    (hp : Planned r.scope name spec g t.steps) (hdelete : 0 < r.deletePoller.attempts) :
    Hinges World.reply
      ((s < r.ownerPoller.attempts ∧ InTime s t.steps) ∧
        (t.confirmsDeletion = true → l < r.absencePoller.attempts))
      (r.run fs draws t) (World.start s l) (fun _ => Vacant) Vacant := by
  rw [run_of_body hbody]
  refine .after (World.outcome_call (World.reply_create object)) ?_
  refine (hinges_phases hask hnew hg hname hp).bind ?_ ?_
  · rintro f w ⟨hf, hgroup, spec, g, hw⟩
    rw [← hf] at hw
    exact hinges_finish hgroup hw hdelete
  · intro e w hw
    obtain ⟨w', htear, hvacant⟩ := hw.tearDown r
    exact ⟨e, w', outcome_bind_of htear _, hvacant⟩

end ScalingTrials.Runner
