import Mathlib.Algebra.GroupWithZero.Nat
import ScalingTrials.Proofs.Elapsed
import ScalingTrials.Proofs.Runner.Verdict

/-! # How long a trial takes

The waits of a trial follow each other, so their budgets add up to a bound on the whole trial.
A site that brings everything with the last attempt makes a trial take just that long, and
succeed. -/

namespace ScalingTrials

open ScalingTrials.Task (CanSleep SleepsAtMost)

variable {h : Handle} {n : Nat}

namespace Site

/-! ### The waits at a site -/

theorem sleepsAtMost_call {α : Type} {q : Ask} {f : q.Answer → Work α}
    (hf : ∀ answer, SleepsAtMost (f answer) n) : SleepsAtMost ((call q).bind f) n :=
  Task.sleepsAtMost_ask hf

theorem canSleep_call {α : Type} {q : Ask} {f : q.Answer → Work α} {a : α} (answer : q.Answer)
    (hf : CanSleep (f answer) n a) : CanSleep ((call q).bind f) n a :=
  Task.canSleep_ask answer hf

theorem sleepsAtMost_awaitOwner (p : Poller) :
    SleepsAtMost (awaitOwner h p) (p.attempts * p.interval.toNanos) :=
  Poller.sleepsAtMost_findAfterDelay (judges_read?.sleepsAtMost.map _) p

theorem sleepsAtMost_await (c : Condition) :
    SleepsAtMost (await h c) ((c.poller.attempts - 1) * c.poller.interval.toNanos) :=
  Poller.sleepsAtMost_await ((judges_read?.sleepsAtMost.map _).map _) c.poller

theorem sleepsAtMost_deleteAndWait (p : Poller) :
    SleepsAtMost (deleteAndWait h p) (p.attempts * p.interval.toNanos) := by
  refine sleepsAtMost_call fun answer => ?_
  cases answer with
  | ok _ => exact (Poller.sleepsAtMost_findAfterDelay judges_gone.sleepsAtMost p).map _
  | error e => exact Task.sleepsAtMost_done _

theorem canSleep_read? (h : Handle) (answer : Except Error Json) :
    CanSleep (read? h) 0 answer.toOption := by
  refine canSleep_call answer ?_
  cases answer <;> exact Task.canSleep_done _

/-- A reading that tells nothing. -/
def unread (h : Handle) : Except Error Json := .error (.call .get h .undecodable)

theorem canSleep_awaitOwner {resource : Json} (hresource : (resource.get? "status").isSome = true)
    {p : Poller} (hp : 0 < p.attempts) :
    CanSleep (awaitOwner h p) (p.attempts * p.interval.toNanos) (some resource) := by
  have hlook : ∀ answer : Except Error Json, CanSleep
      ((read? h).bind fun found =>
        .done (found.filter fun resource => (resource.get? "status").isSome)) 0
      (answer.toOption.filter fun resource => (resource.get? "status").isSome) :=
    fun answer => (canSleep_read? h answer).map _
  have hshown : (Except.toOption (.ok resource : Except Error Json)).filter
      (fun resource => (resource.get? "status").isSome) = some resource := by
    simp [Except.toOption, hresource]
  exact Poller.canSleep_findAfterDelay (hlook (unread h)) (hshown ▸ hlook (.ok resource)) hp

theorem canSleep_await {c : Condition} {resource : Json} (hresource : Shows c (.ok resource))
    (hc : 0 < c.poller.attempts) :
    CanSleep (await h c) ((c.poller.attempts - 1) * c.poller.interval.toNanos) true := by
  have hlook : ∀ answer : Except Error Json, CanSleep
      ((condition? h c.kind).bind fun found =>
        .done (found.bind Condition.statusOf? == some c.status)) 0
      ((answer.toOption.bind fun resource => Condition.find? resource c.kind).bind
        Condition.statusOf? == some c.status) :=
    fun answer => ((canSleep_read? h answer).map _).map _
  have hshown : ((Except.toOption (.ok resource : Except Error Json)).bind fun resource =>
      Condition.find? resource c.kind).bind Condition.statusOf? = some c.status := by
    obtain ⟨_, heq, hshows⟩ := hresource
    cases heq
    simpa [Except.toOption] using hshows
  have hfind := hlook (.ok resource)
  rw [hshown, beq_self_eq_true] at hfind
  have hawait := Poller.canSleep_await (hlook (unread h)) hfind c.poller
  rwa [decide_eq_true hc] at hawait

theorem canSleep_deleteAndWait {p : Poller} (hp : 0 < p.attempts) :
    CanSleep (deleteAndWait h p) (p.attempts * p.interval.toNanos) (.ok true) := by
  refine canSleep_call (.ok ()) ?_
  have hlook : ∀ answer : Except Error Json, CanSleep (gone h) 0 (goneBy answer) := by
    intro answer
    refine canSleep_call answer ?_
    cases answer <;> exact Task.canSleep_done _
  have hpoll : CanSleep (p.findAfterDelay (gone h)) (p.attempts * p.interval.toNanos) (some ()) :=
    Poller.canSleep_findAfterDelay (hlook (unread h)) (hlook (.error (.notFound h.name))) hp
  exact hpoll.map fun found => Except.ok found.isSome

end Site

namespace Runner

variable {r : Runner} {f : Fixture} {t : Trial}

/-! ### The phases of a trial -/

/-- The longest that a step takes: the time in which its change is noticed, and its wait. -/
def stepLimit (r : Runner) (s : Step) : Nat :=
  (if s.change.isSome then r.settle.toNanos else 0) +
    (s.attempts - 1) * Poller.syncInterval.toNanos

/-- The longest that the phases of a trial take. -/
def phasesLimit (r : Runner) (t : Trial) : Nat :=
  r.ownerPoller.attempts * r.ownerPoller.interval.toNanos + (t.steps.map r.stepLimit).sum

/-- The longest that the removal takes. -/
def removalLimit (r : Runner) (t : Trial) : Nat :=
  r.deletePoller.attempts * r.deletePoller.interval.toNanos +
    if t.confirmsDeletion then (r.absencePoller.attempts - 1) * r.absencePoller.interval.toNanos
    else 0

theorem sleepsAtMost_awaitOwned :
    SleepsAtMost (r.awaitOwned h) (r.ownerPoller.attempts * r.ownerPoller.interval.toNanos) := by
  refine (Site.sleepsAtMost_awaitOwner r.ownerPoller).bind_zero fun found => ?_
  cases found with
  | none => exact Task.sleepsAtMost_done _
  | some resource => exact (Site.judges_read?.sleepsAtMost.map _).map _

theorem sleepsAtMost_applyChange (change : Option Json) :
    SleepsAtMost (r.applyChange h change) (if change.isSome then r.settle.toNanos else 0) := by
  cases change with
  | none => exact Task.sleepsAtMost_done _
  | some change =>
      refine Site.sleepsAtMost_call fun answer => ?_
      cases answer with
      | error e => exact Task.sleepsAtMost_done _
      | ok _ =>
          rw [Option.isSome_some, if_pos rfl]
          exact (Task.sleepsAtMost_pause r.settle).map _

theorem sleepsAtMost_awaitSynced (attempts : Nat) :
    SleepsAtMost (awaitSynced h attempts) ((attempts - 1) * Poller.syncInterval.toNanos) :=
  (Site.sleepsAtMost_await (.synced attempts)).map _

theorem sleepsAtMost_readAgain : SleepsAtMost (readAgain h) 0 := by
  refine Site.judges_read?.sleepsAtMost.bind_zero fun found => ?_
  cases found <;> exact Task.sleepsAtMost_done _

theorem sleepsAtMost_describe (name : String) : SleepsAtMost (describe name) 0 := by
  refine Site.sleepsAtMost_call fun answer => ?_
  match answer with
  | .error e => exact Task.sleepsAtMost_done _
  | .ok [g] => exact Task.sleepsAtMost_done _
  | .ok [] | .ok (_ :: _ :: _) => exact Task.sleepsAtMost_done _

theorem sleepsAtMost_runStep (s : Step) : SleepsAtMost (r.runStep f s) (r.stepLimit s) := by
  refine (sleepsAtMost_applyChange s.change).andThen fun _ => ?_
  refine (sleepsAtMost_awaitSynced s.attempts).andThen_zero fun _ => ?_
  refine sleepsAtMost_readAgain.andThen_zero fun resource => ?_
  refine (sleepsAtMost_describe f.groupName).andThen_zero fun g => ?_
  cases s.expectation.check g resource <;> exact Task.sleepsAtMost_done _

theorem sleepsAtMost_runSteps (steps : List Step) :
    SleepsAtMost (r.runSteps f steps) (steps.map r.stepLimit).sum := by
  induction steps with
  | nil => exact Task.sleepsAtMost_done _
  | cons s rest ih =>
      rw [List.map_cons, List.sum_cons]
      exact (sleepsAtMost_runStep s).andThen fun _ => ih

theorem sleepsAtMost_phases : SleepsAtMost (r.phases t h) (r.phasesLimit t) := by
  refine sleepsAtMost_awaitOwned.andThen fun resource => ?_
  exact (sleepsAtMost_runSteps t.steps).andThen_zero fun _ => Task.sleepsAtMost_done _

/-! ### The removal -/

theorem sleepsAtMost_tearDown :
    SleepsAtMost (r.tearDown h) (r.deletePoller.attempts * r.deletePoller.interval.toNanos) :=
  (Site.sleepsAtMost_deleteAndWait r.deletePoller).map _

theorem sleepsAtMost_confirmAbsence :
    SleepsAtMost (r.confirmAbsence f)
      ((r.absencePoller.attempts - 1) * r.absencePoller.interval.toNanos) := by
  refine (Poller.sleepsAtMost_await ?_ r.absencePoller).map _
  refine (judges_listed f.groupName).sleepsAtMost.bind_zero fun answer => ?_
  cases answer <;> exact Task.sleepsAtMost_done _

theorem sleepsAtMost_deleteAndConfirm :
    SleepsAtMost (r.deleteAndConfirm f)
      (r.deletePoller.attempts * r.deletePoller.interval.toNanos +
        (r.absencePoller.attempts - 1) * r.absencePoller.interval.toNanos) := by
  refine (Site.sleepsAtMost_deleteAndWait r.deletePoller).bind fun gone => ?_
  match gone with
  | .error e => exact Task.sleepsAtMost_done _
  | .ok false => exact Task.sleepsAtMost_done _
  | .ok true => exact sleepsAtMost_confirmAbsence

theorem sleepsAtMost_finish : SleepsAtMost (r.finish t f) (r.removalLimit t) := by
  unfold finish removalLimit
  split
  · exact sleepsAtMost_deleteAndConfirm
  · rw [Nat.add_zero]
    exact sleepsAtMost_tearDown.map _

/-- Even a trial that is broken off is removed within the time of one that is not. -/
theorem sleepsAtMost_conclude (verdict : Except Failure Fixture) :
    SleepsAtMost (r.conclude t h verdict) (r.removalLimit t) := by
  cases verdict with
  | error e => exact (sleepsAtMost_tearDown.map _).mono (Nat.le_add_right _ _)
  | ok f => exact sleepsAtMost_finish

theorem sleepsAtMost_run (r : Runner) (fs : Files) (draws : Nat → Naming.Draw) (t : Trial) :
    SleepsAtMost (r.run fs draws t) (r.phasesLimit t + r.removalLimit t) := by
  cases hbody : r.body fs (r.freshHandle draws t.beginning).name with
  | error e =>
      rw [run_of_body_error hbody]
      exact Task.sleepsAtMost_done _
  | ok body =>
      rw [run_of_body hbody]
      refine Site.sleepsAtMost_call fun answer => ?_
      cases answer with
      | error e => exact Task.sleepsAtMost_done _
      | ok _ => exact sleepsAtMost_phases.bind sleepsAtMost_conclude

/-! ### A trial that takes as long as it can -/

theorem canSleep_awaitOwned {resource : Json} (hresource : (resource.get? "status").isSome = true)
    (hp : 0 < r.ownerPoller.attempts) :
    CanSleep (r.awaitOwned h) (r.ownerPoller.attempts * r.ownerPoller.interval.toNanos)
      (.ok resource) := by
  refine CanSleep.bind_zero (Site.canSleep_awaitOwner hresource hp) ?_
  have hthere := (Site.canSleep_read? h (.ok resource)).map fun found => found.isSome
  exact hthere.map _

theorem canSleep_applyChange (change : Option Json) :
    CanSleep (r.applyChange h change) (if change.isSome then r.settle.toNanos else 0) (.ok ()) := by
  cases change with
  | none => exact Task.canSleep_done _
  | some change =>
      refine Site.canSleep_call (.ok .null) ?_
      rw [Option.isSome_some, if_pos rfl]
      exact (Task.canSleep_pause r.settle).map _

theorem canSleep_awaitSynced {attempts : Nat} {resource : Json}
    (hresource : Site.Shows (.synced attempts) (.ok resource)) (hattempts : 0 < attempts) :
    CanSleep (awaitSynced h attempts) ((attempts - 1) * Poller.syncInterval.toNanos) (.ok ()) :=
  CanSleep.bind_zero (Site.canSleep_await hresource hattempts) (Task.canSleep_done _)

theorem canSleep_readAgain (resource : Json) : CanSleep (readAgain h) 0 (.ok resource) :=
  CanSleep.bind_zero (Site.canSleep_read? h (.ok resource)) (Task.canSleep_done _)

theorem canSleep_describe (name : String) (g : Group) : CanSleep (describe name) 0 (.ok g) :=
  Site.canSleep_call (.ok [g]) (Task.canSleep_done _)

/-- A step can be passed, once its resource is synced, by a group that meets its expectation. -/
def Passable (resource : Json) (s : Step) : Prop :=
  0 < s.attempts ∧ Site.Shows (.synced s.attempts) (.ok resource) ∧
    ∃ g, s.expectation.check g resource = .ok ()

theorem canSleep_runStep {resource : Json} {s : Step} (hs : Passable resource s) :
    ∃ g, CanSleep (r.runStep f s) (r.stepLimit s) (.ok g) := by
  obtain ⟨hattempts, hresource, g, hmeets⟩ := hs
  refine ⟨g, (canSleep_applyChange s.change).andThen ?_⟩
  refine (canSleep_awaitSynced hresource hattempts).andThen_zero ?_
  refine (canSleep_readAgain resource).andThen_zero ?_
  refine (canSleep_describe f.groupName g).andThen_zero ?_
  rw [hmeets]
  exact Task.canSleep_done _

theorem canSleep_runSteps {resource : Json} {steps : List Step}
    (hsteps : ∀ s ∈ steps, Passable resource s) :
    CanSleep (r.runSteps f steps) (steps.map r.stepLimit).sum (.ok ()) := by
  induction steps with
  | nil => exact Task.canSleep_done _
  | cons s rest ih =>
      obtain ⟨hs, hrest⟩ := List.forall_mem_cons.mp hsteps
      obtain ⟨g, hstep⟩ := canSleep_runStep (r := r) (f := f) hs
      rw [List.map_cons, List.sum_cons]
      exact hstep.andThen (ih hrest)

theorem canSleep_phases {resource : Json} (hresource : (resource.get? "status").isSome = true)
    (hp : 0 < r.ownerPoller.attempts) (hsteps : ∀ s ∈ t.steps, Passable resource s) :
    CanSleep (r.phases t h) (r.phasesLimit t) (.ok ⟨h, resource⟩) := by
  refine (canSleep_awaitOwned hresource hp).andThen ?_
  exact (canSleep_runSteps hsteps).andThen_zero (Task.canSleep_done _)

theorem canSleep_listed (name : String) (answer : Except Cloud.Error (List Group)) :
    CanSleep (listed name) 0 (Site.namesOf answer) := by
  refine Site.canSleep_call answer ?_
  cases answer <;> exact Task.canSleep_done _

/-- A wait for absence that makes any attempt can have the last of them succeed. -/
theorem canSleep_confirmAbsence :
    ∃ result, CanSleep (r.confirmAbsence f)
      ((r.absencePoller.attempts - 1) * r.absencePoller.interval.toNanos) result ∧
      (0 < r.absencePoller.attempts → result = .ok ()) := by
  refine ⟨_, (Poller.canSleep_await ?_ ?_ r.absencePoller).map _, fun hp => ?_⟩
  -- An attempt misses where the listing fails, and succeeds where nothing is listed.
  · exact CanSleep.bind_zero (canSleep_listed f.groupName (.error ⟨"", none, ""⟩))
      (Task.canSleep_done false)
  · exact CanSleep.bind_zero (canSleep_listed f.groupName (.ok [])) (Task.canSleep_done true)
  · rw [decide_eq_true hp]
    rfl

theorem canSleep_finish (hp : 0 < r.deletePoller.attempts) :
    ∃ result, CanSleep (r.finish t f) (r.removalLimit t) result ∧
      ((t.confirmsDeletion = true → 0 < r.absencePoller.attempts) → result = .ok ()) := by
  unfold finish removalLimit
  cases t.confirmsDeletion with
  | true =>
      obtain ⟨result, hconfirm, hok⟩ := canSleep_confirmAbsence (r := r) (f := f)
      rw [if_pos rfl, if_pos rfl]
      exact ⟨result, (Site.canSleep_deleteAndWait hp).bind hconfirm, fun h => hok (h rfl)⟩
  | false =>
      rw [if_neg Bool.false_ne_true, if_neg Bool.false_ne_true, Nat.add_zero]
      exact ⟨.ok (), ((Site.canSleep_deleteAndWait hp).map _).map _, fun _ => rfl⟩

theorem canSleep_run {fs : Files} {draws : Nat → Naming.Draw} {body resource : Json}
    (hbody : r.body fs (r.freshHandle draws t.beginning).name = .ok body)
    (hresource : (resource.get? "status").isSome = true)
    (hsteps : ∀ s ∈ t.steps, Passable resource s) (howner : 0 < r.ownerPoller.attempts)
    (hdelete : 0 < r.deletePoller.attempts) :
    ∃ result, CanSleep (r.run fs draws t) (r.phasesLimit t + r.removalLimit t) result ∧
      ((t.confirmsDeletion = true → 0 < r.absencePoller.attempts) → result = .ok ()) := by
  rw [run_of_body hbody]
  generalize r.freshHandle draws t.beginning = h
  obtain ⟨result, hfinish, hok⟩ :=
    canSleep_finish (r := r) (t := t) (f := ⟨h, resource⟩) hdelete
  refine ⟨result, Site.canSleep_call (.ok resource) ?_, hok⟩
  exact (canSleep_phases hresource howner hsteps).bind hfinish

/-! ### The budget of a trial -/

/-- The tags that a controller sets itself. -/
def controllerTags : List Tag :=
  [⟨Tag.controllerVersionKey, "v1.0.0", true⟩, ⟨Tag.namespaceKey, Handle.defaultScope, true⟩]

/-- A group as it is expected of a resource that was synced. -/
def groupFor : Expectation → Group
  | .matching => ⟨"web", 1, 2, 1, []⟩
  | .desired n => ⟨"web", 1, 2, n, []⟩
  | .bounds min max => ⟨"web", min, max, 1, []⟩
  | .tags values =>
    ⟨"web", 1, 2, 1, controllerTags ++ values.entries.map fun e => ⟨e.1, e.2, true⟩⟩
  | .tag key value propagated => ⟨"web", 1, 2, 1, [⟨key, value, propagated⟩]⟩

theorem passable_cons {s : Step} {rest : List Step} (hattempts : 0 < s.attempts)
    (hmeets : s.expectation.check (groupFor s.expectation) syncedResource = .ok ())
    (hrest : ∀ s' ∈ rest, Passable syncedResource s') :
    ∀ s' ∈ s :: rest, Passable syncedResource s' := by
  refine List.forall_mem_cons.mpr ⟨⟨hattempts, ⟨_, rfl, rfl⟩, _, hmeets⟩, hrest⟩

/-- Every step of every trial can be passed. -/
theorem passable_steps (t : Trial) : ∀ s ∈ t.steps, Passable syncedResource s := by
  have hnone : ∀ s ∈ [], Passable syncedResource s := by simp
  cases t with
  | createDelete | delete => exact passable_cons (by decide) rfl hnone
  | updateCapacity | updateBounds =>
      refine passable_cons (by decide) rfl ?_
      exact passable_cons (by decide) rfl hnone
  | changeTags =>
      refine passable_cons (by decide) rfl ?_
      refine passable_cons (by decide) rfl ?_
      refine passable_cons (by decide) rfl ?_
      refine passable_cons (by decide) rfl ?_
      refine passable_cons (by decide) rfl ?_
      exact passable_cons (by decide) rfl hnone

/-- The time that a trial is given, in nanoseconds: for the controller to take the resource over,
for every step, for the deletion and, where it is confirmed, for the group to disappear. -/
def timeLimit (settle : Span) (absence : Poller) (t : Trial) : Nat :=
  15 * (2 * nanosPerSecond) +
    (t.steps.map fun s => (if s.change.isSome then settle.toNanos else 0) +
      (s.attempts - 1) * (10 * nanosPerSecond)).sum +
    3 * (10 * nanosPerSecond) +
    if t.confirmsDeletion then (absence.attempts - 1) * absence.interval.toNanos else 0

theorem limits_eq_timeLimit (values : Dictionary) (dir scope : String) (settle : Span)
    (absence : Poller) (t : Trial) :
    let r : Runner := { ofValues values with
      manifestDir := dir, scope := scope, settle := settle, absencePoller := absence }
    r.phasesLimit t + r.removalLimit t = timeLimit settle absence t := by
  intro r
  have hsync : Poller.syncInterval.toNanos = 10 * nanosPerSecond := by decide
  have hphases : r.phasesLimit t = 15 * (2 * nanosPerSecond) +
      (t.steps.map fun s => (if s.change.isSome then settle.toNanos else 0) +
        (s.attempts - 1) * (10 * nanosPerSecond)).sum := by
    have howner : (Span.ofSeconds 2).toNanos = 2 * nanosPerSecond := by decide
    rw [← howner, ← hsync]
    rfl
  have hremoval : r.removalLimit t = 3 * (10 * nanosPerSecond) +
      if t.confirmsDeletion then (absence.attempts - 1) * absence.interval.toNanos else 0 := by
    rw [← hsync]
    rfl
  rw [hphases, hremoval, timeLimit, Nat.add_assoc, Nat.add_assoc, Nat.add_assoc]

/-- A trial comes to its end within the time that it is given, whatever is answered, and there are
answers with which it takes all of it and succeeds. -/
theorem run_sleeps_within_timeLimit (values : Dictionary) (dir scope : String) (settle : Span)
    (absence : Poller) (fs : Files) (draws : Nat → Naming.Draw) (t : Trial) :
    let r : Runner := { ofValues values with
      manifestDir := dir, scope := scope, settle := settle, absencePoller := absence }
    (∀ (σ : Type) (reply : σ → (q : Site.Ask) → q.Answer × σ) (s : σ),
      Event.elapsed ((r.run fs draws t).play (I := Site.calls) reply s).events ≤
        timeLimit settle absence t) ∧
      ∀ body, r.body fs (r.freshHandle draws t.beginning).name = .ok body →
        ∃ (σ : Type) (reply : σ → (q : Site.Ask) → q.Answer × σ) (s : σ),
          Event.elapsed ((r.run fs draws t).play (I := Site.calls) reply s).events =
            timeLimit settle absence t ∧
          ((t.confirmsDeletion = true → 0 < absence.attempts) →
            ((r.run fs draws t).play (I := Site.calls) reply s).result = .ok ()) := by
  intro r
  have hlimit : r.phasesLimit t + r.removalLimit t = timeLimit settle absence t :=
    limits_eq_timeLimit values dir scope settle absence t
  constructor
  · intro σ reply s
    rw [← hlimit]
    exact sleepsAtMost_run r fs draws t _ _ (Task.play_course _ _ _)
  · intro body hbody
    have hstatus : (syncedResource.get? "status").isSome = true := rfl
    obtain ⟨result, ⟨es, hcourse, helapsed⟩, hok⟩ :=
      canSleep_run hbody hstatus (passable_steps t) (Nat.succ_pos 14) (Nat.succ_pos 2)
    obtain ⟨hresult, hevents⟩ := Task.play_recite (fun q => (oblige false q).1) hcourse
    refine ⟨List (Event Site.calls), Task.recite fun q => (oblige false q).1, es, ?_, fun h => ?_⟩
    · rw [hevents, helapsed, hlimit]
    · rw [hresult, hok h]

/-- With the manifest on the shelf, a trial of the deletion can take all of its time. -/
theorem run_onShelf_takes_timeLimit :
    ∃ (σ : Type) (reply : σ → (q : Site.Ask) → q.Answer × σ) (s : σ),
      Event.elapsed
          ((onShelf.run shelf (fun _ => 0) .delete).play (I := Site.calls) reply s).events =
        timeLimit onShelf.settle onShelf.absencePoller .delete ∧
      ((onShelf.run shelf (fun _ => 0) .delete).play (I := Site.calls) reply s).result =
        .ok () := by
  obtain ⟨-, htight⟩ := run_sleeps_within_timeLimit .empty "" onShelf.scope onShelf.settle
    onShelf.absencePoller shelf (fun _ => 0) .delete
  obtain ⟨σ, reply, s, helapsed, hok⟩ := htight _ (body_onShelf _)
  exact ⟨σ, reply, s, helapsed, hok fun _ => by decide⟩

end Runner

end ScalingTrials
