import ScalingTrials.Proofs.Manifest
import ScalingTrials.Proofs.Runner.Ending
import ScalingTrials.Proofs.Yaml.Mapping

/-! # What a whole trial does

A trial makes one resource, puts it through its phases and removes it. The phases fix
the verdict, unless the deletion itself is on trial. -/

namespace ScalingTrials.Runner

open Site (Reads Describes Removal Visit)

variable {r : Runner} {fs : Files} {draws : Nat → Naming.Draw} {t : Trial} {h : Handle}
  {es : List (Event Site.calls)}

/-! ### A trial in parts -/

/-- The phases between the making of a resource and its removal. -/
def phases (r : Runner) (t : Trial) (h : Handle) : Site.Work (Except Failure Fixture) :=
  (r.awaitOwned h).andThen fun resource =>
    (r.runSteps ⟨h, resource⟩ t.steps).andThen fun _ => .done (.ok ⟨h, resource⟩)

/-- The removal, by how the phases went. -/
def conclude (r : Runner) (t : Trial) (h : Handle) :
    Except Failure Fixture → Site.Work (Except Failure Unit)
  | .error e => (r.tearDown h).bind fun _ => .done (.error e)
  | .ok f => r.finish t f

/-- What follows the making of a resource. -/
def proceed (r : Runner) (t : Trial) (h : Handle) :
    Except Site.Error Json → Site.Work (Except Failure Unit)
  | .error e => .done (.error (.creation h e))
  | .ok _ => (r.phases t h).bind (r.conclude t h)

theorem run_of_body_error {e : Failure}
    (hbody : r.body fs (r.freshHandle draws t.beginning).name = .error e) :
    r.run fs draws t = .done (.error e) := by
  rw [run, createFixture_of_body_error hbody]
  rfl

theorem run_of_body {body : Json}
    (hbody : r.body fs (r.freshHandle draws t.beginning).name = .ok body) :
    r.run fs draws t = (Site.call (.create (r.freshHandle draws t.beginning) body)).bind
      (r.proceed t (r.freshHandle draws t.beginning)) := by
  rw [run, createFixture_of_body hbody]
  generalize r.freshHandle draws t.beginning = h
  rw [make, Task.andThen, Task.bind_bind]
  refine congrArg _ (funext fun answer => ?_)
  cases answer with
  | error e => rfl
  | ok _ =>
      simp only [proceed, phases, Task.andThen, Task.bind_bind]
      refine congrArg _ (funext fun owned => ?_)
      cases owned with
      | error e => simp only [conclude, Task.bind_bind, Task.done_bind]
      | ok resource =>
          simp only [Task.bind_bind, Task.done_bind]
          refine congrArg _ (funext fun verdict => ?_)
          cases verdict <;> rfl

/-- A body fails only for its manifest. -/
theorem manifest_of_body_error {name : String} {e : Failure} (hbody : r.body fs name = .error e) :
    ∃ cause, e = .manifest manifestName cause := by
  unfold body at hbody
  dsimp only at hbody
  generalize Manifest.render _ _ _ = rendered at hbody
  cases rendered with
  | ok _ => cases hbody
  | error cause =>
      cases hbody
      exact ⟨cause, rfl⟩

/-! ### The phases together -/

/-- The controller took the resource over, and every step passed. -/
inductive Completed (r : Runner) (t : Trial) (h : Handle) :
    Fixture → List (Event Site.calls) → Prop where
  | intro {resource : Json} {own steps : List (Event Site.calls)} :
      Owned h resource own → StepsPassed r ⟨h, resource⟩ t.steps steps →
      Completed r t h ⟨h, resource⟩ (own ++ steps)

/-- The first phase that failed, and no event of a later one. -/
inductive Interrupted (r : Runner) (t : Trial) (h : Handle) :
    Failure → List (Event Site.calls) → Prop where
  | owner {e : Failure} {es : List (Event Site.calls)} :
      NotOwned h e es → Interrupted r t h e es
  | step {e : Failure} {resource : Json} {own steps : List (Event Site.calls)} :
      Owned h resource own → StepsFailed r ⟨h, resource⟩ t.steps e steps →
      Interrupted r t h e (own ++ steps)

theorem ends_phases : Task.Ends (r.phases t h) (Completed r t h) (Interrupted r t h) := by
  refine ends_awaitOwned.andThen (fun e es => .owner) fun resource own howned => ?_
  refine ends_runSteps.andThen (fun e es hfailed => .step howned hfailed) ?_
  intro _ steps hpassed es result hc
  obtain ⟨rfl, rfl⟩ := Task.course_done_iff.mp hc
  simpa using Completed.intro howned hpassed

theorem Completed.handle {f : Fixture} (hc : Completed r t h f es) : f.handle = h := by
  obtain ⟨-, -⟩ := hc
  rfl

theorem Completed.visit {f : Fixture} (hc : Completed r t h f es) : ∀ e ∈ es, Visit h e := by
  obtain ⟨howned, hpassed⟩ := hc
  rw [List.forall_mem_append]
  exact ⟨howned.visit, hpassed.visit⟩

theorem Interrupted.visit {e : Failure} (hi : Interrupted r t h e es) : ∀ e ∈ es, Visit h e := by
  cases hi with
  | owner hmissed => exact hmissed.visit
  | step howned hfailed =>
      rw [List.forall_mem_append]
      exact ⟨howned.visit, hfailed.visit⟩

/-! ### The courses of a trial -/

/-- The ways in which a trial of a resource can go. -/
inductive Ran (r : Runner) (fs : Files) (t : Trial) (h : Handle) :
    Except Failure Unit → List (Event Site.calls) → Prop where
  | unrendered {e : Failure} : r.body fs h.name = .error e → Ran r fs t h (.error e) []
  | notMade {body : Json} {e : Site.Error} : r.body fs h.name = .ok body →
      Ran r fs t h (.error (.creation h e)) [.asked (.create h body) (.error e)]
  | interrupted {body made : Json} {e : Failure} {before removal : List (Event Site.calls)}
      {gone : Except Site.Error Bool} : r.body fs h.name = .ok body →
      (r.phases t h).Course before (.error e) → Removal h gone removal →
      Ran r fs t h (.error e) (.asked (.create h body) (.ok made) :: (before ++ removal))
  | completed {body made : Json} {f : Fixture} {result : Except Failure Unit}
      {before ending : List (Event Site.calls)} : r.body fs h.name = .ok body →
      (r.phases t h).Course before (.ok f) → Ended r f t.confirmsDeletion result ending →
      Ran r fs t h result (.asked (.create h body) (.ok made) :: (before ++ ending))

theorem course_run {result : Except Failure Unit}
    (hc : (r.run fs draws t).Course es result) :
    Ran r fs t (r.freshHandle draws t.beginning) result es := by
  cases hbody : r.body fs (r.freshHandle draws t.beginning).name with
  | error e =>
      rw [run_of_body_error hbody] at hc
      obtain ⟨rfl, rfl⟩ := Task.course_done_iff.mp hc
      exact .unrendered hbody
  | ok body =>
      rw [run_of_body hbody] at hc
      obtain ⟨answer, first, second, rfl, hcall, hrest⟩ := Task.course_bind_iff.mp hc
      obtain rfl := Site.course_call_iff.mp hcall
      cases answer with
      | error e =>
          obtain ⟨rfl, rfl⟩ := Task.course_done_iff.mp hrest
          exact .notMade hbody
      | ok made =>
          obtain ⟨verdict, before, last, rfl, hphases, hlast⟩ := Task.course_bind_iff.mp hrest
          cases verdict with
          | error e =>
              obtain ⟨_, removal, rest, rfl, htear, hdone⟩ := Task.course_bind_iff.mp hlast
              obtain ⟨rfl, rfl⟩ := Task.course_done_iff.mp hdone
              obtain ⟨gone, hremoval⟩ := course_tearDown htear
              simpa using Ran.interrupted hbody hphases hremoval
          | ok f =>
              have hended : Ended r f t.confirmsDeletion result last := course_finish hlast
              simpa using Ran.completed hbody hphases hended

/-- Whatever is answered to the removal, the failure of the phases stays the verdict. -/
theorem result_of_failed_phases {body made : Json} {e : Failure} {result : Except Failure Unit}
    {before : List (Event Site.calls)}
    (hbody : r.body fs (r.freshHandle draws t.beginning).name = .ok body)
    (hphases : (r.phases t (r.freshHandle draws t.beginning)).Course before (.error e))
    (hc : (r.run fs draws t).Course es result)
    (hbefore :
      .asked (.create (r.freshHandle draws t.beginning) body) (.ok made) :: before <+: es) :
    result = .error e := by
  obtain ⟨rest, rfl⟩ := hbefore
  rw [run_of_body hbody] at hc
  obtain ⟨answer, first, second, heq, hcall, hrest⟩ := Task.course_bind_iff.mp hc
  obtain rfl := Site.course_call_iff.mp hcall
  simp only [List.cons_append, List.nil_append, List.cons.injEq, Event.asked.injEq, heq_eq_eq,
    true_and] at heq
  obtain ⟨rfl, rfl⟩ := heq
  obtain ⟨verdict, before', last, heq, hphases', hlast⟩ := Task.course_bind_iff.mp hrest
  obtain ⟨rfl, rfl⟩ := hphases.unique hphases' heq
  obtain ⟨_, removal, rest, rfl, -, hdone⟩ := Task.course_bind_iff.mp hlast
  exact (Task.course_done_iff.mp hdone).2

/-- Between them, the phases and the ending make nothing more and delete once. -/
theorem Completed.asked_ended {f : Fixture} {confirms : Bool} {result : Except Failure Unit}
    {ending : List (Event Site.calls)} (hc : Completed r t h f es)
    (hended : Ended r f confirms result ending) (body made : Json) :
    Site.asked Site.Ask.made? (.asked (.create h body) (.ok made) :: (es ++ ending)) = [h] ∧
      Site.asked Site.Ask.deleted? (.asked (.create h body) (.ok made) :: (es ++ ending)) =
        [h] := by
  obtain ⟨answer, polls, descriptions, rfl, hpolls, hdescriptions, -⟩ := hended.eq_delete_append
  rw [hc.handle] at hpolls ⊢
  refine Site.asked_life body made answer hc.visit ?_
  rw [List.forall_mem_append]
  exact ⟨Site.visit_of_polling .get hpolls, Site.visit_of_polling (.describe _) hdescriptions⟩

/-! ### A trial that passes -/

/-- No trial passes unless every phase of it bore out what it claims, all for one resource:
it was made, taken over, taken through every step and removed. -/
theorem events_of_run_ok {σ : Type} {reply : σ → (q : Site.Ask) → q.Answer × σ} {s : σ}
    (hok : ((r.run fs draws t).play (I := Site.calls) reply s).result = .ok ()) :
    ∃ h body made resource own steps ending, h = r.freshHandle draws t.beginning ∧
      r.body fs h.name = .ok body ∧
      ((r.run fs draws t).play (I := Site.calls) reply s).events =
        .asked (.create h body) (.ok made) :: (own ++ steps ++ ending) ∧
      Owned h resource own ∧ StepsPassed r ⟨h, resource⟩ t.steps steps ∧
      Ended r ⟨h, resource⟩ t.confirmsDeletion (.ok ()) ending ∧
      Site.asked Site.Ask.made? ((r.run fs draws t).play (I := Site.calls) reply s).events = [h] ∧
      Site.asked Site.Ask.deleted? ((r.run fs draws t).play (I := Site.calls) reply s).events =
        [h] ∧
      Site.asked Site.Ask.change? ((r.run fs draws t).play (I := Site.calls) reply s).events =
        t.steps.filterMap Step.change := by
  have hran := course_run (Task.play_course (I := Site.calls) reply (r.run fs draws t) s)
  rw [hok] at hran
  generalize ((r.run fs draws t).play (I := Site.calls) reply s).events = es at hran ⊢
  cases hran with
  | @completed body made f _ before ending hbody hphases hended =>
      have hcompleted : Completed r t _ f before := ends_phases before _ hphases
      obtain ⟨hmade, hdeleted⟩ := hcompleted.asked_ended hended body made
      obtain @⟨resource, own, steps, howned, hpassed⟩ := hcompleted
      refine ⟨_, body, made, resource, own, steps, ending, rfl, hbody, rfl, howned, hpassed,
        hended, hmade, hdeleted, ?_⟩
      simp [howned.changes, hpassed.changes, hended.changes, Site.Ask.change?]

/-- The text of a manifest that asks for no value. -/
def template : String := String.ofList (Yaml.documentText [("kind", "AutoScalingGroup")])

/-- A directory with the manifest in it. -/
def shelf : Files :=
  { here := []
    node? := fun l =>
      if l = ["auto_scaling_group.yaml"] then some (.file template.toUTF8) else none }

theorem readText_shelf : shelf.readText "auto_scaling_group.yaml" = .ok template := by
  have hlocate : shelf.locate "auto_scaling_group.yaml" = .ok ["auto_scaling_group.yaml"] := rfl
  exact Files.readText_of_at? hlocate rfl rfl

theorem bodyOf_template (name : String) :
    Manifest.bodyOf name template = .ok (.obj [("kind", .str "AutoScalingGroup")]) := by
  have hkey : ∀ e ∈ [("kind", "AutoScalingGroup")], Yaml.Scanner.IsKey e.1 := by
    have hplain : Yaml.needsQuotes "kind" = false := by decide +kernel
    have hlength : "kind".toList.length ≤ Yaml.Scanner.keyLength := by decide
    simpa using ⟨Yaml.isPlain_of_needsQuotes_eq_false hplain, hlength⟩
  have hkind : Yaml.Scalar.ofPlain "kind" = .str "kind" := by decide +kernel
  have hvalue : Yaml.Scalar.ofPlain "AutoScalingGroup" = .str "AutoScalingGroup" := by
    decide +kernel
  have hplain : Yaml.needsQuotes "AutoScalingGroup" = false := by decide +kernel
  have hread : ∀ src, Yaml.Value.read src Yaml.Reading.depthLimit .root
      (.map none [(.scalar none none true "kind", .scalar none none true "AutoScalingGroup")]) 0 =
        .ok (.map [(.str "kind", .str "AutoScalingGroup")], 0) := by
    intro src
    rw [Yaml.Reading.depthLimit, Yaml.Value.read_map]
    simp only [Yaml.Value.readEntries, bind, StateT.bind, Except.bind, Yaml.Value.read_scalar,
      hkind, hvalue]
    rfl
  have hparse : Yaml.Value.parse template =
      .ok (.map [(.str "kind", .str "AutoScalingGroup")]) := by
    rw [Yaml.Value.parse, Yaml.readWith, template, Yaml.documents_documentText (by simp) hkey]
    simp only [List.map_cons, List.map_nil, Yaml.entryNodes, hplain, Bool.not_false, bind,
      Except.bind, hread]
    rfl
  rw [Manifest.bodyOf, hparse]
  rfl

/-- A resource that a controller has synced. -/
def syncedResource : Json :=
  .obj [("spec", .obj [("autoScalingGroupName", .str "web"), ("minSize", .int 1),
      ("maxSize", .int 2)]),
    ("status", .obj [("conditions", .arr [.obj [("type", .str "ACK.ResourceSynced"),
      ("status", .str "True")]])])]

/-- A site where all goes well; its state tells whether the resource was deleted. -/
def oblige (gone : Bool) : (q : Site.Ask) → q.Answer × Bool
  | .create _ _ => (.ok syncedResource, gone)
  | .get h => (if gone then .error (.notFound h.name) else .ok syncedResource, gone)
  | .patch _ _ => (.ok syncedResource, gone)
  | .delete _ => (.ok (), true)
  | .describe _ => (.ok (if gone then [] else [⟨"web", 1, 2, 1, []⟩]), gone)

def onShelf : Runner := { ofValues .empty with manifestDir := "" }

theorem body_onShelf (name : String) :
    onShelf.body shelf name = .ok (.obj [("kind", .str "AutoScalingGroup")]) := by
  have hplain : '$' ∉ template.toList := by
    rw [template, String.toList_ofList]
    decide +kernel
  have hrender : ∀ m : Manifest, m.name = manifestName →
      m.render shelf "" = .ok (.obj [("kind", .str "AutoScalingGroup")]) := by
    intro m hm
    have hpath : m.pathIn "" = "auto_scaling_group.yaml" := by
      simp [Manifest.pathIn, hm, Files.join, manifestName]
    unfold Manifest.render Manifest.body
    dsimp only
    rw [hpath, readText_shelf]
    dsimp only
    rw [Manifest.fill_of_notMem _ hplain, bodyOf_template]
  unfold body
  dsimp only
  rw [show onShelf.manifestDir = "" from rfl, hrender _ rfl]

theorem run_obliged :
    ((onShelf.run shelf (fun _ => 0) .delete).play (I := Site.calls) oblige false).result =
      .ok () := by
  rw [run_of_body (body_onShelf _)]
  rfl

theorem events_of_run_ok_obliged :
    ((onShelf.run shelf (fun _ => 0) .delete).play (I := Site.calls) oblige false).result =
        .ok () ∧
      Site.asked Site.Ask.deleted?
          ((onShelf.run shelf (fun _ => 0) .delete).play (I := Site.calls) oblige false).events =
        [onShelf.freshHandle (fun _ => 0) Trial.delete.beginning] := by
  refine ⟨run_obliged, ?_⟩
  obtain ⟨h, _, _, _, _, _, _, rfl, -, -, -, -, -, -, hdeleted, -⟩ := events_of_run_ok run_obliged
  exact hdeleted

/-! ### The removal -/

/-- A resource that was made is deleted once, behind all other calls but readings and the
descriptions that confirm a deletion. A phase that fails decides the result, whatever is
answered from then on. -/
theorem made_resource_is_removed (r : Runner) (fs : Files) (draws : Nat → Naming.Draw) (t : Trial)
    {σ : Type} (reply : σ → (q : Site.Ask) → q.Answer × σ) (s : σ) :
    let h := r.freshHandle draws t.beginning
    let p := (r.run fs draws t).play (I := Site.calls) reply s
    (∃ cause, r.body fs h.name = .error (.manifest manifestName cause) ∧
        p.events = [] ∧ p.result = .error (.manifest manifestName cause)) ∨
      (∃ body e, r.body fs h.name = .ok body ∧
        p.events = [.asked (.create h body) (.error e)] ∧ p.result = .error (.creation h e)) ∨
      ∃ body made before answer polls descriptions, r.body fs h.name = .ok body ∧
        p.events = .asked (.create h body) (.ok made) ::
          (before ++ .asked (.delete h) answer :: (polls ++ descriptions)) ∧
        Site.asked Site.Ask.made? p.events = [h] ∧ Site.asked Site.Ask.deleted? p.events = [h] ∧
        (∀ e ∈ before, Visit h e) ∧ Reads h (fun _ => True) polls ∧
        ((∃ e, p.result = .error e ∧ Interrupted r t h e before ∧ descriptions = [] ∧
            ∀ (τ : Type) (reply' : τ → (q : Site.Ask) → q.Answer × τ) (s' : τ),
              let p' := (r.run fs draws t).play (I := Site.calls) reply' s'
              .asked (.create h body) (.ok made) :: before <+: p'.events → p'.result = .error e) ∨
          ∃ f, Completed r t h f before ∧
            Describes f.groupName (fun _ => True) descriptions ∧
            (t.confirmsDeletion = false → descriptions = []) ∧
            Ended r f t.confirmsDeletion p.result
              (.asked (.delete h) answer :: (polls ++ descriptions))) := by
  intro h p
  have hran : Ran r fs t h p.result p.events :=
    course_run (Task.play_course (I := Site.calls) reply (r.run fs draws t) s)
  generalize p.result = result, p.events = es at hran ⊢
  cases hran with
  | unrendered hbody =>
      obtain ⟨cause, rfl⟩ := manifest_of_body_error hbody
      exact .inl ⟨cause, hbody, rfl, rfl⟩
  | notMade hbody => exact .inr (.inl ⟨_, _, hbody, rfl, rfl⟩)
  | @interrupted body made e before removal gone hbody hphases hremoval =>
      obtain ⟨answer, polls, rfl, hpolls⟩ := hremoval.eq_delete_append
      have hinterrupted : Interrupted r t h e before := ends_phases before _ hphases
      obtain ⟨hmade, hdeleted⟩ := Site.asked_life body made answer hinterrupted.visit
        (Site.visit_of_polling .get hpolls)
      refine .inr (.inr ⟨body, made, before, answer, polls, [], hbody, by simp, hmade, hdeleted,
        hinterrupted.visit, hpolls, .inl ⟨e, rfl, hinterrupted, rfl, ?_⟩⟩)
      intro τ reply' s' p' hbefore
      exact result_of_failed_phases hbody hphases (Task.play_course _ _ _) hbefore
  | @completed body made f result before ending hbody hphases hended =>
      have hcompleted : Completed r t h f before := ends_phases before _ hphases
      obtain ⟨hmade, hdeleted⟩ := hcompleted.asked_ended hended body made
      obtain ⟨answer, polls, descriptions, rfl, hpolls, hdescriptions, hnone⟩ :=
        hended.eq_delete_append
      rw [hcompleted.handle] at hpolls hended hmade hdeleted ⊢
      exact .inr (.inr ⟨body, made, before, answer, polls, descriptions, hbody, rfl, hmade,
        hdeleted, hcompleted.visit, hpolls, .inr ⟨f, hcompleted, hdescriptions, hnone, hended⟩⟩)

end ScalingTrials.Runner
