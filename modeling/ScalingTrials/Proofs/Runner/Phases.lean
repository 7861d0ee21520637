import ScalingTrials.Proofs.Site
import ScalingTrials.Runner

/-! # The phases of a trial

Each phase of a trial either passes, with events that bear it out, or fails with
the failure that names it. Deleting the resource is no phase. -/

namespace ScalingTrials.Runner

open Site (Reads Shows ShowsOwner Visit)

variable {r : Runner} {h : Handle} {f : Fixture} {es : List (Event Site.calls)}

/-! ### Making the resource -/

theorem createFixture_of_body {fs : Files} {draws : Nat → Naming.Draw} {beginning : String}
    {body : Json} (hbody : r.body fs (r.freshHandle draws beginning).name = .ok body) :
    r.createFixture fs draws beginning = r.make (r.freshHandle draws beginning) body := by
  unfold createFixture
  simp only [hbody]

theorem createFixture_of_body_error {fs : Files} {draws : Nat → Naming.Draw} {beginning : String}
    {e : Failure} (hbody : r.body fs (r.freshHandle draws beginning).name = .error e) :
    r.createFixture fs draws beginning = .done (.error e) := by
  unfold createFixture
  simp only [hbody]

/-! ### Taking over the resource -/

/-- The resource was first seen with a status, and is still there. -/
inductive Owned (h : Handle) (resource : Json) : List (Event Site.calls) → Prop where
  | intro {tries : List (Event Site.calls)} {again : Json} :
      Reads h (fun answer => ¬ShowsOwner answer) tries →
      (resource.get? "status").isSome = true →
      Owned h resource (tries ++ [.asked (.get h) (.ok resource), .asked (.get h) (.ok again)])

/-- No reading showed a status, or the resource was missing after one did. -/
inductive NotOwned (h : Handle) : Failure → List (Event Site.calls) → Prop where
  | notOwned {es : List (Event Site.calls)} : Reads h (fun answer => ¬ShowsOwner answer) es →
      NotOwned h (.notOwned h) es
  | missing {tries : List (Event Site.calls)} {resource : Json} {e : Site.Error} :
      Reads h (fun answer => ¬ShowsOwner answer) tries →
      (resource.get? "status").isSome = true →
      NotOwned h (.missing h)
        (tries ++ [.asked (.get h) (.ok resource), .asked (.get h) (.error e)])

theorem ends_awaitOwned : Task.Ends (r.awaitOwned h) (Owned h) (NotOwned h) := by
  intro es result hc
  obtain ⟨found, first, second, rfl, howner, hrest⟩ := Task.course_bind_iff.mp hc
  rcases Site.course_awaitOwner howner with
    ⟨resource, tries, rfl, rfl, htries, hstatus⟩ | ⟨rfl, hes⟩
  · obtain ⟨there, third, fourth, rfl, hthere, hdone⟩ := Task.course_bind_iff.mp hrest
    obtain ⟨answer, rfl, rfl⟩ := Site.judges_read?.bind (fun _ => rfl) _ _ hthere
    obtain ⟨rfl, rfl⟩ := Task.course_done_iff.mp hdone
    cases answer with
    | ok again => simpa [Except.toOption] using Owned.intro htries hstatus
    | error e => simpa [Except.toOption] using NotOwned.missing htries hstatus
  · obtain ⟨rfl, rfl⟩ := Task.course_done_iff.mp hrest
    simpa using NotOwned.notOwned hes

/-! ### A step -/

/-- The change of a step was made once, and the controller given time, or there is none. -/
inductive Changed (r : Runner) (h : Handle) : Option Json → List (Event Site.calls) → Prop where
  | unchanged : Changed r h none []
  | changed (change answer : Json) :
      Changed r h (some change) [.asked (.patch h change) (.ok answer), .slept r.settle]

/-- The answers to a description that fail a step, each with its failure. -/
inductive GroupFailed (f : Fixture) (s : Step) (resource : Json) :
    Except Cloud.Error (List Group) → Failure → Prop where
  | description (e : Cloud.Error) :
      GroupFailed f s resource (.error e) (.description f.groupName e)
  | groupCount {groups : List Group} : groups.length ≠ 1 →
      GroupFailed f s resource (.ok groups) (.groupCount f.groupName groups.length)
  | mismatch {g : Group} {e : Expectation.Mismatch} :
      s.expectation.check g resource = .error e →
      GroupFailed f s resource (.ok [g]) (.mismatch g.name e)

/-- The change was made, and of the readings after it the last reported that the resource
is synced. -/
inductive Synced (r : Runner) (f : Fixture) (s : Step) : List (Event Site.calls) → Prop where
  | intro {changes tries : List (Event Site.calls)} {resource : Json} :
      Changed r f.handle s.change changes →
      Reads f.handle (fun answer => ¬Shows (.synced s.attempts) answer) tries →
      Shows (.synced s.attempts) (.ok resource) →
      Synced r f s (changes ++ tries ++ [.asked (.get f.handle) (.ok resource)])

/-- The resource was synced, and the only group of its name met the expectation. -/
inductive Passed (r : Runner) (f : Fixture) (s : Step) : List (Event Site.calls) → Prop where
  | intro {synced : List (Event Site.calls)} {resource : Json} {g : Group} :
      Synced r f s synced →
      s.expectation.check g resource = .ok () →
      Passed r f s (synced ++ [.asked (.get f.handle) (.ok resource),
        .asked (.describe f.groupName) (.ok [g])])

/-- What went wrong first in a step, and no event after it. -/
inductive Failed (r : Runner) (f : Fixture) (s : Step) :
    Failure → List (Event Site.calls) → Prop where
  | change {change : Json} {e : Site.Error} : s.change = some change →
      Failed r f s (.change f.handle e) [.asked (.patch f.handle change) (.error e)]
  | notSynced {changes tries : List (Event Site.calls)} :
      Changed r f.handle s.change changes →
      Reads f.handle (fun answer => ¬Shows (.synced s.attempts) answer) tries →
      Failed r f s (.notSynced f.handle s.attempts) (changes ++ tries)
  | missing {synced : List (Event Site.calls)} {e : Site.Error} :
      Synced r f s synced →
      Failed r f s (.missing f.handle) (synced ++ [.asked (.get f.handle) (.error e)])
  | group {synced : List (Event Site.calls)} {resource : Json}
      {answer : Except Cloud.Error (List Group)} {e : Failure} :
      Synced r f s synced →
      GroupFailed f s resource answer e →
      Failed r f s e (synced ++ [.asked (.get f.handle) (.ok resource),
        .asked (.describe f.groupName) answer])

theorem ends_applyChange {change : Option Json} :
    Task.Ends (r.applyChange h change) (fun _ => Changed r h change) fun failure es =>
      ∃ asked e, change = some asked ∧ failure = .change h e ∧
        es = [.asked (.patch h asked) (.error e)] := by
  intro es result hc
  cases change with
  | none =>
      obtain ⟨rfl, rfl⟩ := Task.course_done_iff.mp hc
      exact .unchanged
  | some asked =>
      obtain ⟨answer, first, second, rfl, hcall, hrest⟩ := Task.course_bind_iff.mp hc
      obtain rfl := Site.course_call_iff.mp hcall
      cases answer with
      | ok resource =>
          obtain ⟨rest, rfl, hdone⟩ := Task.course_sleep_iff.mp hrest
          obtain ⟨rfl, rfl⟩ := Task.course_done_iff.mp hdone
          exact .changed asked resource
      | error e =>
          obtain ⟨rfl, rfl⟩ := Task.course_done_iff.mp hrest
          exact ⟨asked, e, rfl, rfl, rfl⟩

theorem ends_awaitSynced {attempts : Nat} :
    Task.Ends (awaitSynced h attempts)
      (fun _ es => ∃ resource tries, es = tries ++ [.asked (.get h) (.ok resource)] ∧
        Reads h (fun answer => ¬Shows (.synced attempts) answer) tries ∧
        Shows (.synced attempts) (.ok resource))
      fun failure es => failure = .notSynced h attempts ∧
        Reads h (fun answer => ¬Shows (.synced attempts) answer) es := by
  intro es result hc
  obtain ⟨synced, first, second, rfl, hwait, hdone⟩ := Task.course_bind_iff.mp hc
  obtain ⟨rfl, rfl⟩ := Task.course_done_iff.mp hdone
  rw [List.append_nil]
  rcases Site.course_await hwait with ⟨rfl, hshown⟩ | ⟨rfl, htries⟩
  · exact hshown
  · exact ⟨rfl, htries⟩

theorem ends_readAgain :
    Task.Ends (readAgain h) (fun resource es => es = [.asked (.get h) (.ok resource)])
      fun failure es => ∃ e, failure = .missing h ∧ es = [.asked (.get h) (.error e)] := by
  intro es result hc
  obtain ⟨found, first, second, rfl, hread, hdone⟩ := Task.course_bind_iff.mp hc
  obtain ⟨answer, rfl, rfl⟩ := Site.judges_read? _ _ hread
  cases answer with
  | ok resource =>
      obtain ⟨rfl, rfl⟩ := Task.course_done_iff.mp hdone
      rfl
  | error e =>
      obtain ⟨rfl, rfl⟩ := Task.course_done_iff.mp hdone
      exact ⟨e, rfl, rfl⟩

/-- What a description does not bring fails every step of the fixture. -/
theorem ends_describe (s : Step) (resource : Json) :
    Task.Ends (describe f.groupName)
      (fun g es => es = [.asked (.describe f.groupName) (.ok [g])])
      fun failure es => ∃ answer, es = [.asked (.describe f.groupName) answer] ∧
        GroupFailed f s resource answer failure := by
  intro es result hc
  obtain ⟨answer, first, second, rfl, hcall, hdone⟩ := Task.course_bind_iff.mp hc
  obtain rfl := Site.course_call_iff.mp hcall
  match answer with
  | .error e =>
      obtain ⟨rfl, rfl⟩ := Task.course_done_iff.mp hdone
      exact ⟨_, rfl, .description e⟩
  | .ok [g] =>
      obtain ⟨rfl, rfl⟩ := Task.course_done_iff.mp hdone
      rfl
  | .ok [] | .ok (_ :: _ :: _) =>
      obtain ⟨rfl, rfl⟩ := Task.course_done_iff.mp hdone
      exact ⟨_, rfl, .groupCount (by simp)⟩

theorem ends_runStep {s : Step} :
    Task.Ends (r.runStep f s) (fun _ => Passed r f s) (Failed r f s) := by
  refine ends_applyChange.andThen ?_ fun _ changes hchanged => ?_
  · rintro _ _ ⟨asked, e, hasked, rfl, rfl⟩
    exact .change hasked
  refine ends_awaitSynced.andThen ?_ ?_
  · rintro _ tries ⟨rfl, htries⟩
    exact .notSynced hchanged htries
  rintro _ _ ⟨shown, tries, rfl, htries, hshown⟩
  have hsynced := Synced.intro hchanged htries hshown
  refine ends_readAgain.andThen ?_ ?_
  · rintro _ _ ⟨e, rfl, rfl⟩
    simpa using Failed.missing hsynced
  rintro resource _ rfl
  refine (ends_describe s resource).andThen ?_ ?_
  · rintro e _ ⟨answer, rfl, hfailed⟩
    simpa using Failed.group hsynced hfailed
  rintro g _ rfl es result hc
  cases hmeets : s.expectation.check g resource with
  | ok _ =>
      rw [hmeets] at hc
      obtain ⟨rfl, rfl⟩ := Task.course_done_iff.mp hc
      simpa using Passed.intro hsynced hmeets
  | error e =>
      rw [hmeets] at hc
      obtain ⟨rfl, rfl⟩ := Task.course_done_iff.mp hc
      simpa using Failed.group hsynced (.mismatch hmeets)

/-! ### All steps -/

/-- The steps passed one after the other. -/
inductive StepsPassed (r : Runner) (f : Fixture) : List Step → List (Event Site.calls) → Prop where
  | nil : StepsPassed r f [] []
  | cons {s : Step} {rest : List Step} {first later : List (Event Site.calls)} :
      Passed r f s first → StepsPassed r f rest later → StepsPassed r f (s :: rest) (first ++ later)

/-- A step failed, and those before it passed. -/
inductive StepsFailed (r : Runner) (f : Fixture) (steps : List Step) :
    Failure → List (Event Site.calls) → Prop where
  | intro {done rest : List Step} {s : Step} {e : Failure} {before last : List (Event Site.calls)} :
      steps = done ++ s :: rest → StepsPassed r f done before → Failed r f s e last →
      StepsFailed r f steps e (before ++ last)

theorem StepsFailed.cons {s : Step} {rest : List Step} {e : Failure}
    {first later : List (Event Site.calls)} (hpassed : Passed r f s first)
    (hfailed : StepsFailed r f rest e later) : StepsFailed r f (s :: rest) e (first ++ later) := by
  obtain ⟨hsteps, hdone, hlast⟩ := hfailed
  rw [← List.append_assoc]
  exact .intro (congrArg (List.cons s) hsteps) (.cons hpassed hdone) hlast

theorem ends_runSteps {steps : List Step} :
    Task.Ends (r.runSteps f steps) (fun _ => StepsPassed r f steps) (StepsFailed r f steps) := by
  induction steps with
  | nil =>
      intro es result hc
      obtain ⟨rfl, rfl⟩ := Task.course_done_iff.mp hc
      exact .nil
  | cons s rest ih =>
      refine ends_runStep.andThen ?_ fun _ first hpassed es result hc => ?_
      · intro e es hfailed
        simpa using StepsFailed.intro (List.nil_append (s :: rest)).symm .nil hfailed
      · cases result with
        | ok _ => exact .cons hpassed (ih es _ hc)
        | error e => exact .cons hpassed (ih es _ hc)

/-! ### What the phases ask for -/

theorem Owned.visit {resource : Json} (ho : Owned h resource es) : ∀ e ∈ es, Visit h e := by
  obtain ⟨htries, -⟩ := ho
  rw [List.forall_mem_append]
  exact ⟨Site.visit_of_polling .get htries, by simp [Visit.get]⟩

theorem NotOwned.visit {e : Failure} (ho : NotOwned h e es) : ∀ e ∈ es, Visit h e := by
  cases ho with
  | notOwned hes => exact Site.visit_of_polling .get hes
  | missing htries _ =>
      rw [List.forall_mem_append]
      exact ⟨Site.visit_of_polling .get htries, by simp [Visit.get]⟩

theorem Changed.visit {change : Option Json} (hchanged : Changed r h change es) :
    ∀ e ∈ es, Visit h e := by
  cases hchanged with
  | unchanged => simp
  | changed change answer => simp [Visit.patch, Visit.slept]

theorem Synced.visit {s : Step} (hs : Synced r f s es) : ∀ e ∈ es, Visit f.handle e := by
  obtain ⟨hchanged, htries, -⟩ := hs
  rw [List.forall_mem_append, List.forall_mem_append]
  exact ⟨⟨hchanged.visit, Site.visit_of_polling .get htries⟩, by simp [Visit.get]⟩

theorem Passed.visit {s : Step} (hp : Passed r f s es) : ∀ e ∈ es, Visit f.handle e := by
  obtain ⟨hsynced, -⟩ := hp
  rw [List.forall_mem_append]
  exact ⟨hsynced.visit, by simp [Visit.get, Visit.describe]⟩

theorem Failed.visit {s : Step} {e : Failure} (hf : Failed r f s e es) :
    ∀ e ∈ es, Visit f.handle e := by
  cases hf with
  | change _ => simp [Visit.patch]
  | notSynced hchanged htries =>
      rw [List.forall_mem_append]
      exact ⟨hchanged.visit, Site.visit_of_polling .get htries⟩
  | missing hsynced =>
      rw [List.forall_mem_append]
      exact ⟨hsynced.visit, by simp [Visit.get]⟩
  | group hsynced _ =>
      rw [List.forall_mem_append]
      exact ⟨hsynced.visit, by simp [Visit.get, Visit.describe]⟩

theorem StepsPassed.visit {steps : List Step} (hp : StepsPassed r f steps es) :
    ∀ e ∈ es, Visit f.handle e := by
  induction hp with
  | nil => simp
  | cons hfirst _ ih =>
      rw [List.forall_mem_append]
      exact ⟨hfirst.visit, ih⟩

theorem StepsFailed.visit {steps : List Step} {e : Failure} (hf : StepsFailed r f steps e es) :
    ∀ e ∈ es, Visit f.handle e := by
  obtain ⟨-, hdone, hlast⟩ := hf
  rw [List.forall_mem_append]
  exact ⟨hdone.visit, hlast.visit⟩

theorem Owned.changes {resource : Json} (ho : Owned h resource es) :
    Site.asked Site.Ask.change? es = [] := by
  obtain ⟨htries, -⟩ := ho
  have hreads : Site.asked Site.Ask.change? _ = [] := Site.asked_polling htries rfl
  simp [hreads, Site.Ask.change?]

/-- Steps that pass make their changes, once each and in order, and no others. -/
theorem StepsPassed.changes {steps : List Step} (hp : StepsPassed r f steps es) :
    Site.asked Site.Ask.change? es = steps.filterMap Step.change := by
  induction hp with
  | nil => rfl
  | @cons s rest first later hfirst _ ih =>
      obtain ⟨⟨hchanged, htries, -⟩, -⟩ := hfirst
      have hreads : Site.asked Site.Ask.change? _ = [] := Site.asked_polling htries rfl
      simp only [Site.asked_append, hreads, ih]
      cases hchange : s.change with
      | none =>
          rw [hchange] at hchanged
          cases hchanged
          simp [hchange, Site.Ask.change?]
      | some change =>
          rw [hchange] at hchanged
          cases hchanged
          simp [hchange, Site.Ask.change?]

end ScalingTrials.Runner
