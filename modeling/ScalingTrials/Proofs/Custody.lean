import ScalingTrials.Proofs.Cleanup
import ScalingTrials.Proofs.Preparation

/-! # Custody of a launch template

Preparing and cleaning up, in any order and with any failures, never lose sight of the
template: as long as the account holds it, the record tells its id. -/

namespace ScalingTrials

open Cloud (Account Follows IsGone calls)
open Descriptor (load recordIn)

variable {name dir : String} {fs : Files} {a b : Account}

/-! ### Operations on an account and a directory -/

/-- The account, and the files among which the record is kept. -/
structure Custody where
  account : Account
  files : Files

namespace Custody

/-- One operation. Preparing may fail for everything but the record that it writes. Whatever
else happens leaves the template and the record alone. -/
inductive Operation (name dir : String) : Custody → Custody → Prop where
  | prepare {w : Custody} {b : Account} {σ : Type}
      (reply : σ → (q : Cloud.Ask) → Except Cloud.Error q.Result × σ) (s : σ) :
      Follows name w.account
        ((Preparation.prepareIn name w.files dir).play (I := calls) reply s).events b →
      (∀ e, ((Preparation.prepareIn name w.files dir).play (I := calls) reply s).result.1 ≠
        .error (.record e)) →
      Operation name dir w
        ⟨b, ((Preparation.prepareIn name w.files dir).play (I := calls) reply s).result.2⟩
  | cleanup {w : Custody} {b : Account} {σ : Type}
      (reply : σ → (q : Cloud.Ask) → Except Cloud.Error q.Result × σ) (s : σ) :
      Follows name w.account ((Cleanup.cleanup w.files dir).play (I := calls) reply s).events b →
      Operation name dir w
        ⟨b, ((Cleanup.cleanup w.files dir).play (I := calls) reply s).result.2⟩
  | elsewhere {w w' : Custody} : w'.account name = w.account name →
      w'.files.read (recordIn dir) = w.files.read (recordIn dir) → Operation name dir w w'

/-- What operations lead to, if at first there is no template of the name. -/
inductive Reachable (name dir : String) : Custody → Prop where
  | start {w : Custody} : w.account name = none → Reachable name dir w
  | step {w w' : Custody} : Reachable name dir w → Operation name dir w w' → Reachable name dir w'

/-- The record of the directory holds the id of the template, which is not empty. -/
def Recorded (name dir : String) (w : Custody) : Prop :=
  ∀ id, w.account name = some id →
    id ≠ "" ∧ ∃ d, load w.files dir = .ok d ∧ d.templateId = id

/-! ### What operations preserve -/

variable {w w' : Custody}

/-- Once the template that the record names is gone, the name is free. -/
theorem absent_of_gone {d : Descriptor} {answer : Except Cloud.Error Unit}
    (hw : Recorded name dir w) (hload : load w.files dir = .ok d)
    (hgone : IsGone answer)
    (hfollows : Follows name w.account [.asked (.deleteTemplate d.templateId) answer] b) :
    b name = none := by
  obtain ⟨a, c, hsame, hanswer, hend⟩ := Cloud.follows_asked hfollows
  obtain ⟨hkept, habsent⟩ := Cloud.answers_deleteTemplate hanswer
  rw [Cloud.follows_nil hend]
  refine Option.eq_none_iff_forall_ne_some.mpr fun id hid => ?_
  obtain ⟨-, d', hload', rfl⟩ := hw id (hsame ▸ hkept name id hid)
  rw [hload] at hload'
  cases hload'
  exact habsent hgone name hid

theorem recorded_of_prepared {es : List (Event calls)}
    {result : Except Preparation.Failure String} {fs' : Files} (hw : Recorded name dir w)
    (hc : (Preparation.prepareIn name w.files dir).Course es (result, fs'))
    (hfollows : Follows name w.account es b) (hrecord : ∀ e, result ≠ .error (.record e)) :
    Recorded name dir ⟨b, fs'⟩ := by
  rcases Preparation.course_prepareIn hc with ⟨e, hprepare, -, rfl⟩ | ⟨d, hprepare, hsave⟩
  · have hsame : b name = w.account name :=
      Preparation.after_prepare _ es _ b rfl hprepare hfollows
    intro id hid
    exact hw id (hsame ▸ hid)
  · obtain ⟨hid, hnonempty⟩ := Preparation.after_prepare _ es _ b rfl hprepare hfollows
    intro id hheld
    obtain rfl : d.templateId = id := Option.some.inj (hid.symm.trans hheld)
    rcases hsave with ⟨cause, -, rfl⟩ | ⟨path, hsave, -⟩
    · exact absurd rfl (hrecord cause)
    · have hload : load (d.save w.files dir).2 dir = .ok d :=
        Descriptor.load_of_save (by rw [hsave])
      rw [hsave] at hload
      refine ⟨?_, d, hload, rfl⟩
      rcases hnonempty with hbefore | hne
      · exact (hw _ hbefore).1
      · exact hne

theorem recorded_of_cleaned {es : List (Event calls)} {report : Cleanup.Report} {fs' : Files}
    (hw : Recorded name dir w) (hway : Cleanup.Way w.files dir es report fs')
    (hfollows : Follows name w.account es b) : Recorded name dir ⟨b, fs'⟩ := by
  cases hway with
  | absent _ | unusable _ _ =>
      intro id hid
      exact hw id (Cloud.follows_nil hfollows ▸ hid)
  | unnamed hload hempty _ =>
      intro id hid
      obtain ⟨hne, d', hload', rfl⟩ := hw id (Cloud.follows_nil hfollows ▸ hid)
      rw [hload] at hload'
      cases hload'
      exact absurd hempty hne
  | gone hload _ hgone _ =>
      intro id hid
      have hnone : b name = none := absent_of_gone hw hload hgone hfollows
      rw [show b name = some id from hid] at hnone
      cases hnone
  | kept hload _ hcode =>
      obtain ⟨a, c, hsame, hanswer, hend⟩ := Cloud.follows_asked hfollows
      intro id hid
      have hheld : c name = some id := (Cloud.follows_nil hend).symm.trans hid
      exact hw id (hsame ▸ (Cloud.answers_deleteTemplate hanswer).1 name id hheld)

theorem recorded_of_operation (hw : Recorded name dir w) (h : Operation name dir w w') :
    Recorded name dir w' := by
  cases h with
  | prepare reply s hfollows hrecord =>
      exact recorded_of_prepared hw (Task.play_course (I := calls) reply _ s) hfollows hrecord
  | cleanup reply s hfollows =>
      exact recorded_of_cleaned hw (Cleanup.way_of_play w.files dir reply s) hfollows
  | elsewhere haccount hread =>
      intro id hid
      obtain ⟨hne, d, hload, hd⟩ := hw id (haccount ▸ hid)
      refine ⟨hne, d, ?_, hd⟩
      simpa only [load, Files.readText, hread] using hload

theorem recorded_of_reachable (hw : Reachable name dir w) : Recorded name dir w := by
  induction hw with
  | start hnone =>
      intro id hid
      rw [hnone] at hid
      cases hid
  | step _ hop ih => exact recorded_of_operation ih hop

/-- A template is never lost: as long as the account holds it, the directory has a record
that tells its id. A cleanup that learns that the template is gone leaves neither, unless the system
refuses to take the record away. -/
theorem template_never_orphaned (hw : Reachable name dir w) :
    (∀ id, w.account name = some id → w.files.present (recordIn dir) = true ∧
        ∃ d, load w.files dir = .ok d ∧ d.templateId = id) ∧
      ∀ (σ : Type) (reply : σ → (q : Cloud.Ask) → Except Cloud.Error q.Result × σ) (s : σ)
        (b : Account),
        let p := (Cleanup.cleanup w.files dir).play (I := calls) reply s
        Follows name w.account p.events b →
        (∃ id answer, .asked (.deleteTemplate id) answer ∈ p.events ∧ IsGone answer) →
        b name = none ∧ ((∀ cause, p.result.1.record ≠ .failed cause) →
          p.result.2.present (recordIn dir) = false) := by
  have hrecorded := recorded_of_reachable hw
  constructor
  · intro id hid
    obtain ⟨-, d, hload, hd⟩ := hrecorded id hid
    exact ⟨Descriptor.present_of_load hload, d, hload, hd⟩
  · intro σ reply s b p hfollows hasked
    have hway : Cleanup.Way w.files dir p.events p.result.1 p.result.2 :=
      Cleanup.way_of_play w.files dir reply s
    generalize p.events = es, p.result.1 = report, p.result.2 = fs' at hfollows hasked hway ⊢
    obtain ⟨id, answer, hmem, hgone⟩ := hasked
    cases hway with
    | absent _ | unusable _ _ | unnamed _ _ _ => cases hmem
    | gone hload _ hgone' hcleared =>
        refine ⟨absent_of_gone hrecorded hload hgone' hfollows, fun hremoved => ?_⟩
        cases hcleared with
        | removed _ _ habsent => exact habsent
        | refused _ _ => exact absurd rfl (hremoved _)
    | kept hload _ hcode =>
        cases List.mem_singleton.mp hmem
        exact absurd hgone (Cleanup.not_gone_of_code hcode)

/-- Neither preparing nor cleaning up makes a difference to what the system refuses. -/
theorem refusal?_prepareIn {σ : Type} (name : String) (fs : Files) (dir : String)
    (reply : σ → (q : Cloud.Ask) → Except Cloud.Error q.Result × σ) (s : σ) :
    ((Preparation.prepareIn name fs dir).play (I := calls) reply s).result.2.refusal? =
      fs.refusal? := by
  have hcourse := Task.play_course (I := calls) reply (Preparation.prepareIn name fs dir) s
  generalize (Preparation.prepareIn name fs dir).play (I := calls) reply s = p at hcourse ⊢
  obtain ⟨⟨result, fs'⟩, es, s'⟩ := p
  rcases Preparation.course_prepareIn hcourse with
    ⟨e, -, -, rfl⟩ | ⟨d, -, ⟨cause, hsave, -⟩ | ⟨path, hsave, -⟩⟩
  · rfl
  · rw [← Descriptor.refusal?_save d fs dir, hsave]
  · rw [← Descriptor.refusal?_save d fs dir, hsave]

theorem refusal?_cleanup {σ : Type} (fs : Files) (dir : String)
    (reply : σ → (q : Cloud.Ask) → Except Cloud.Error q.Result × σ) (s : σ) :
    ((Cleanup.cleanup fs dir).play (I := calls) reply s).result.2.refusal? = fs.refusal? :=
  (Cleanup.way_of_play fs dir reply s).careful.elsewhere.2.1

/-- An empty directory. -/
def bare : Files :=
  { here := ["tmp"], node? := fun l => if l = ["tmp"] then some .directory else none }

/-- A service that never fails. -/
def oblige (_ : Unit) : (q : Cloud.Ask) → Except Cloud.Error q.Result × Unit
  | .defaultNetworks => (.ok ["vpc-1"], ())
  | .subnets _ => (.ok [⟨"subnet-a", some "us-west-2a"⟩], ())
  | .images _ _ => (.ok [⟨"ami-1", none⟩], ())
  | .createTemplate _ => (.ok "lt-1", ())
  | .templateId _ => (.ok none, ())
  | .deleteTemplate _ => (.ok (), ())

/-- What preparing leaves behind there. -/
def prepared : Custody :=
  ⟨Function.update (fun _ => none) "web" (some "lt-1"),
    ((Preparation.prepareIn "web" bare "").play (I := calls) oblige ()).result.2⟩

theorem reachable_prepared : Reachable "web" "" prepared := by
  have hstart : Reachable "web" "" ⟨fun _ => none, bare⟩ := .start rfl
  refine hstart.step (.prepare oblige () ?_ ?_)
  · exact .asked (.networks _ _) (.asked (.subnets _ _ _) (.asked (.images _ _ _ _)
      (.asked (.made rfl (by decide)) (.nil _))))
  · intro e he
    have hok : ((Preparation.prepareIn "web" bare "").play (I := calls) oblige ()).result.1 =
      .ok "bootstrap.yaml" := rfl
    rw [hok] at he
    cases he

/-- A service that is too busy to delete anything. -/
def refuse (_ : Unit) : (q : Cloud.Ask) → Except Cloud.Error q.Result × Unit
  | .deleteTemplate _ =>
    (.error ⟨"DeleteLaunchTemplate", some "RequestLimitExceeded", "Request limit exceeded."⟩, ())
  | q => oblige () q

/-- What a cleanup that fails makes of it. -/
def uncleaned : Custody :=
  ⟨prepared.account, ((Cleanup.cleanup prepared.files "").play (I := calls) refuse ()).result.2⟩

theorem reachable_uncleaned : Reachable "web" "" uncleaned := by
  obtain ⟨hne, d, hload, hd⟩ := recorded_of_reachable reachable_prepared "lt-1" rfl
  refine reachable_prepared.step (.cleanup refuse () ?_)
  rw [Cleanup.events_cleanup hload (hd ▸ hne)]
  exact .asked (.notDeleted (by decide) (.inl rfl)) (.nil _)

/-- Nothing is refused in the directory, before and after. -/
theorem refusal?_uncleaned : uncleaned.files.refusal? = bare.refusal? := by
  -- Without this rule the runs themselves would be evaluated.
  have hfiles : ∀ (account : Account) (files : Files), (Custody.mk account files).files = files :=
    fun _ _ => rfl
  rw [uncleaned, hfiles, refusal?_cleanup, prepared, hfiles, refusal?_prepareIn]

theorem template_never_orphaned_retried :
    uncleaned.account "web" = some "lt-1" ∧
      (∃ d, load uncleaned.files "" = .ok d ∧ d.templateId = "lt-1") ∧
      ((Cleanup.cleanup uncleaned.files "").play (I := calls) oblige ()).result.2.present
        (recordIn "") = false := by
  obtain ⟨hheld, hclean⟩ := template_never_orphaned reachable_uncleaned
  obtain ⟨-, d, hload, hd⟩ := hheld "lt-1" rfl
  have hevents : ((Cleanup.cleanup uncleaned.files "").play (I := calls) oblige ()).events =
      [.asked (.deleteTemplate d.templateId) (.ok ())] :=
    Cleanup.events_cleanup hload (by simp [hd]) oblige ()
  have hgone := hclean Unit oblige () (uncleaned.account.without d.templateId)
    (by rw [hevents]; exact .asked (.deleted _ _) (.nil _))
    ⟨d.templateId, .ok (), by rw [hevents]; exact List.mem_singleton_self _, .inl rfl⟩
  have hremoved : ∀ cause, ((Cleanup.cleanup uncleaned.files "").play (I := calls) oblige
      ()).result.1.record ≠ .failed cause := by
    intro cause hfailed
    have hcareful := (Cleanup.way_of_play uncleaned.files "" oblige ()).careful
    obtain ⟨-, l, r, -, hrefused⟩ := hcareful.record_failed_iff.mp ⟨cause, hfailed⟩
    rw [refusal?_uncleaned] at hrefused
    cases hrefused
  exact ⟨rfl, ⟨d, hload, hd⟩, hgone.2 hremoved⟩

end Custody

end ScalingTrials
