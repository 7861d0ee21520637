import ScalingTrials.Proofs.Runner.Phases

/-! # The end of a trial

A trial ends by removing its resource. Most look no further; one goes on to wait until
the cloud lists the group no longer. -/

namespace ScalingTrials.Runner

open Site (Reads Describes Lacks Removal)

variable {r : Runner} {h : Handle} {f : Fixture} {es : List (Event Site.calls)}

theorem course_tearDown {result : Unit} (hc : (r.tearDown h).Course es result) :
    ∃ gone, Removal h gone es := by
  obtain ⟨gone, first, second, rfl, hremoval, hdone⟩ := Task.course_bind_iff.mp hc
  obtain ⟨rfl, -⟩ := Task.course_done_iff.mp hdone
  exact ⟨gone, by simpa using Site.course_deleteAndWait hremoval⟩

theorem judges_listed (name : String) :
    Poller.Judges (listed name) (Site.Ask.describe name) Site.namesOf :=
  Site.judges_call fun answer => by cases answer <;> rfl

/-- How a trial whose steps passed can end, by whether it confirms the deletion. -/
inductive Ended (r : Runner) (f : Fixture) :
    Bool → Except Failure Unit → List (Event Site.calls) → Prop where
  | tornDown {gone : Except Site.Error Bool} {removal : List (Event Site.calls)} :
      Removal f.handle gone removal → Ended r f false (.ok ()) removal
  | confirmed {removal tries : List (Event Site.calls)}
      {answer : Except Cloud.Error (List Group)} :
      Removal f.handle (.ok true) removal →
      Describes f.groupName (fun answer => ¬Lacks f.groupName answer) tries →
      Lacks f.groupName answer →
      Ended r f true (.ok ()) (removal ++ (tries ++ [.asked (.describe f.groupName) answer]))
  | stillPresent {removal tries : List (Event Site.calls)} :
      Removal f.handle (.ok true) removal →
      Describes f.groupName (fun answer => ¬Lacks f.groupName answer) tries →
      Ended r f true (.error (.stillPresent f.groupName (longestSeconds r.absencePoller)))
        (removal ++ tries)
  | notDeleted {removal : List (Event Site.calls)} :
      Removal f.handle (.ok false) removal →
      Ended r f true (.error (.notDeleted f.handle r.deletePoller.attempts)) removal
  | refused {e : Site.Error} {removal : List (Event Site.calls)} :
      Removal f.handle (.error e) removal →
      Ended r f true (.error (.deletion f.handle e)) removal

theorem course_deleteAndConfirm {result : Except Failure Unit}
    (hc : (r.deleteAndConfirm f).Course es result) : Ended r f true result es := by
  obtain ⟨gone, removal, second, rfl, hdelete, hrest⟩ := Task.course_bind_iff.mp hc
  have hremoval := Site.course_deleteAndWait hdelete
  match gone with
  | .error e =>
      obtain ⟨rfl, rfl⟩ := Task.course_done_iff.mp hrest
      simpa using Ended.refused hremoval
  | .ok false =>
      obtain ⟨rfl, rfl⟩ := Task.course_done_iff.mp hrest
      simpa using Ended.notDeleted hremoval
  | .ok true =>
      obtain ⟨absent, polls, last, rfl, hwait, hdone⟩ := Task.course_bind_iff.mp hrest
      obtain ⟨rfl, rfl⟩ := Task.course_done_iff.mp hdone
      rw [List.append_nil]
      rcases Site.course_awaitAbsence (judges_listed f.groupName) hwait with
        ⟨rfl, tries, answer, rfl, htries, hlacks⟩ | ⟨rfl, htries⟩
      · exact .confirmed hremoval htries hlacks
      · exact .stillPresent hremoval htries

theorem course_finish {t : Trial} {result : Except Failure Unit}
    (hc : (r.finish t f).Course es result) : Ended r f t.confirmsDeletion result es := by
  unfold finish at hc
  cases hconfirms : t.confirmsDeletion with
  | true =>
      rw [if_pos hconfirms] at hc
      exact course_deleteAndConfirm hc
  | false =>
      rw [if_neg (by simp [hconfirms])] at hc
      obtain ⟨_, removal, second, rfl, htear, hdone⟩ := Task.course_bind_iff.mp hc
      obtain ⟨rfl, rfl⟩ := Task.course_done_iff.mp hdone
      obtain ⟨gone, hremoval⟩ := course_tearDown htear
      simpa using Ended.tornDown hremoval

/-- One deletion, then readings, then descriptions if the deletion is to be confirmed. -/
theorem Ended.eq_delete_append {confirms : Bool} {result : Except Failure Unit}
    (hended : Ended r f confirms result es) :
    ∃ answer polls descriptions,
      es = .asked (.delete f.handle) answer :: (polls ++ descriptions) ∧
      Reads f.handle (fun _ => True) polls ∧
      Describes f.groupName (fun _ => True) descriptions ∧
      (confirms = false → descriptions = []) := by
  cases hended with
  | tornDown hremoval | notDeleted hremoval | refused hremoval =>
      obtain ⟨answer, polls, rfl, hpolls⟩ := hremoval.eq_delete_append
      exact ⟨answer, polls, [], by simp, hpolls, polling_nil _ _, fun _ => rfl⟩
  | confirmed hremoval htries _ =>
      obtain ⟨answer, polls, rfl, hpolls⟩ := hremoval.eq_delete_append
      refine ⟨answer, polls, _, rfl, hpolls, ?_, by simp⟩
      exact (htries.mono fun _ _ => trivial).append (polling_asked trivial)
  | stillPresent hremoval htries =>
      obtain ⟨answer, polls, rfl, hpolls⟩ := hremoval.eq_delete_append
      exact ⟨answer, polls, _, rfl, hpolls, htries.mono fun _ _ => trivial, by simp⟩

theorem Ended.changes {confirms : Bool} {result : Except Failure Unit}
    (hended : Ended r f confirms result es) : Site.asked Site.Ask.change? es = [] := by
  obtain ⟨answer, polls, descriptions, rfl, hpolls, hdescriptions, -⟩ := hended.eq_delete_append
  have hreads : Site.asked Site.Ask.change? polls = [] := Site.asked_polling hpolls rfl
  have hlists : Site.asked Site.Ask.change? descriptions = [] :=
    Site.asked_polling hdescriptions rfl
  simp [hreads, hlists, Site.Ask.change?]

end ScalingTrials.Runner
