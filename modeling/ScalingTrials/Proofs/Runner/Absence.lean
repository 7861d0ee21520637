import ScalingTrials.Proofs.Runner.Ending
import ScalingTrials.Proofs.Waits

/-! # Confirming that a group is gone

A group counts as gone only once a listing succeeds without it. A trial looks for that only after
its resource was deleted for certain, and tells for how long it looked in vain. -/

namespace ScalingTrials

open ScalingTrials.Poller (spaced)
open ScalingTrials.Task (answers asks look)

/-! ### The time that is told -/

namespace Span

/-- Below the whole seconds there is less than another one. -/
theorem toNanos_div (s : Span) : s.toNanos / nanosPerSecond = s.seconds.toNat := by
  rw [toNanos, Nat.add_comm, Nat.add_mul_div_right _ _ (by decide),
    Nat.div_eq_of_lt s.nanos.isLt, Nat.zero_add]

end Span

theorem Runner.longestSeconds_of_budget? {p : Poller} {budget : Span}
    (h : p.budget? = some budget) : longestSeconds p = budget.seconds.toNat := by
  rw [longestSeconds, ← Span.toNanos_of_scale? h, Span.toNanos_div]

/-! ### Waiting until a name is listed no longer -/

/-- Names were listed, and one is not among them. -/
def Omits (name : String) (answer : Except Cloud.Error (List String)) : Prop :=
  ∃ names, answer = .ok names ∧ name ∉ names

theorem isWithout_iff_omits {name : String} {answer : Except Cloud.Error (List String)} :
    Site.isWithout name answer = true ↔ Omits name answer := by
  cases answer with
  | ok names =>
      simp only [Site.isWithout, Omits, Except.ok.injEq, exists_eq_left', Bool.not_eq_true',
        List.any_eq_false, decide_eq_true_eq]
      constructor
      · intro hne hmem
        exact hne name hmem rfl
      · rintro hmem n hn rfl
        exact hmem hn
  | error e => simp [Site.isWithout, Omits]

theorem awaitAbsence_eq {I : Interface} (list : Task I (Except Cloud.Error (List String)))
    (name : String) (p : Poller) :
    awaitAbsence list name p = p.await (list.bind fun answer =>
      .done (Site.isWithout name answer)) := by
  refine congrArg (fun look => p.await (list.bind look)) (funext fun answer => ?_)
  cases answer <;> rfl

/-- However names are listed, a wait for the absence of one lists them up to the first success
without it. -/
theorem play_awaitAbsence {I : Interface} {σ : Type} (reply : σ → (q : I.Ask) → I.Answer q × σ)
    (list : Task I (Except Cloud.Error (List String))) (name : String) (p : Poller) (s : σ) :
    let heard := fun i => (list.again reply s i).result
    let wait := (awaitAbsence list name p).play reply s
    ∃ k, UpToFirst (fun i => Omits name (heard i)) p.attempts k ∧
      (wait.result = true ↔ ∃ i < p.attempts, Omits name (heard i)) ∧
      wait.events = spaced p.interval (list.rounds reply s k) := by
  have hwait := Poller.play_await_checks reply p s
    (list.bind fun answer => .done (Site.isWithout name answer))
  rw [← awaitAbsence_eq] at hwait
  simpa only [Task.again_map, Task.rounds_map, isWithout_iff_omits] using hwait

/-- Where no thing has the property, all are looked at. -/
theorem UpToFirst.eq_limit {P : Nat → Prop} {limit k : Nat} (h : UpToFirst P limit k)
    (hnone : ¬∃ i < limit, P i) : k = limit := by
  cases h with
  | found hlimit _ hfound => exact absurd ⟨_, hlimit, hfound⟩ hnone
  | exhausted _ => rfl

namespace Runner

open Site (Lacks namesOf)

variable {σ : Type} (reply : σ → (q : Site.Ask) → q.Answer × σ) (s : σ)

theorem listed_eq (name : String) :
    listed name = look (I := Site.calls) (.describe name) namesOf := by
  refine congrArg (Site.call (.describe name)).bind (funext fun answer => ?_)
  cases answer <;> rfl

theorem omits_namesOf_iff {name : String} {answer : Except Cloud.Error (List Group)} :
    Omits name (namesOf answer) ↔ Lacks name answer := by
  rw [← isWithout_iff_omits, Site.isWithout_iff]

/-- The wait of a trial describes the group up to the first description without it. If there is
none, it has slept for its budget. -/
theorem play_awaitAbsence_listed (name : String) (p : Poller) :
    let described := answers (I := Site.calls) reply (.describe name) s
    let wait := (awaitAbsence (listed name) name p).play (I := Site.calls) reply s
    ∃ k, UpToFirst (fun i => Lacks name (described i)) p.attempts k ∧
      (wait.result = true ↔ ∃ i < p.attempts, Lacks name (described i)) ∧
      wait.events = spaced p.interval (asks (I := Site.calls) (.describe name) described k) ∧
      (wait.result = false → Event.elapsed wait.events / nanosPerSecond = longestSeconds p) := by
  intro described wait
  have hwait := play_awaitAbsence (I := Site.calls) reply (listed name) name p s
  rw [listed_eq] at hwait
  simp only [Task.result_again_look, Task.rounds_look, omits_namesOf_iff] at hwait
  rw [← listed_eq] at hwait
  obtain ⟨k, hfirst, hresult, hevents⟩ := hwait
  refine ⟨k, hfirst, hresult, hevents, fun hfalse => ?_⟩
  have hnone : ¬∃ i < p.attempts, Lacks name (described i) := by
    rw [← hresult]
    exact Bool.eq_false_iff.mp hfalse
  rw [hevents, Poller.elapsed_spaced_asks, hfirst.eq_limit hnone, longestSeconds, Nat.mul_comm]

/-- The deletion of a fixture goes on from the way in which its resource was removed, and looks for
its group only behind a removal that is certain. -/
theorem play_deleteAndConfirm (r : Runner) (f : Fixture) :
    let removal := (Site.deleteAndWait f.handle r.deletePoller).play (I := Site.calls) reply s
    let wait := (awaitAbsence (listed f.groupName) f.groupName r.absencePoller).play
      (I := Site.calls) reply removal.state
    let deletion := (r.deleteAndConfirm f).play (I := Site.calls) reply s
    (∀ e, removal.result = .error e →
      deletion.result = .error (.deletion f.handle e) ∧ deletion.events = removal.events) ∧
    (removal.result = .ok false →
      deletion.result = .error (.notDeleted f.handle r.deletePoller.attempts) ∧
        deletion.events = removal.events) ∧
    (removal.result = .ok true →
      deletion.result = (if wait.result then .ok ()
        else .error (.stillPresent f.groupName (longestSeconds r.absencePoller))) ∧
        deletion.events = removal.events ++ wait.events) := by
  intro removal wait deletion
  have hdeletion : deletion = _ := Task.play_bind (I := Site.calls) reply _ _ s
  rw [hdeletion]
  refine ⟨fun e hremoved => ?_, fun hremoved => ?_, fun hremoved => ?_⟩
  · simp [removal, hremoved, Task.play]
  · simp [removal, hremoved, Task.play]
  · simp only [removal] at hremoved
    simp only [hremoved, confirmAbsence, Task.play_map]
    exact ⟨rfl, rfl⟩

/-- A removal lists no groups. -/
theorem describe_notMem_deleteAndWait (h : Handle) (p : Poller) (name : String)
    (answer : Except Cloud.Error (List Group)) :
    .asked (Site.Ask.describe name) answer ∉
      ((Site.deleteAndWait h p).play (I := Site.calls) reply s).events := by
  have hcourse := Task.play_course (I := Site.calls) reply (Site.deleteAndWait h p) s
  obtain ⟨_, polls, heq, hpolls⟩ := (Site.course_deleteAndWait hcourse).eq_delete_append
  rw [heq, List.mem_cons]
  rintro (hfirst | hlater)
  · cases hfirst
  · rcases hpolls _ hlater with ⟨_, hslept⟩ | ⟨_, hread, -⟩
    · cases hslept
    · cases hread

/-- A name counts as absent exactly if one of the listings that were allowed succeeded without it.
A trial confirms a deletion exactly if its resource was removed for certain and then its group was
found absent. Otherwise it tells what failed, and looks for the group only in the last case; the
time that it tells is what it slept while looking. -/
theorem absence_is_confirmed_by_listings {I : Interface} {τ : Type}
    (respond : τ → (q : I.Ask) → I.Answer q × τ)
    (list : Task I (Except Cloud.Error (List String))) (name : String) (p : Poller) (t : τ)
    (r : Runner) (f : Fixture) {budget : Span} (hbudget : r.absencePoller.budget? = some budget) :
    let heard := fun i => (list.again respond t i).result
    let search := (awaitAbsence list name p).play respond t
    let removal := (Site.deleteAndWait f.handle r.deletePoller).play (I := Site.calls) reply s
    let described := answers (I := Site.calls) reply (.describe f.groupName) removal.state
    let wait := (awaitAbsence (listed f.groupName) f.groupName r.absencePoller).play
      (I := Site.calls) reply removal.state
    let deletion := (r.deleteAndConfirm f).play (I := Site.calls) reply s
    ((search.result = true ↔ ∃ i < p.attempts, Omits name (heard i)) ∧
      ∃ k, UpToFirst (fun i => Omits name (heard i)) p.attempts k ∧
        search.events = spaced p.interval (list.rounds respond t k)) ∧
    ((wait.result = true ↔ ∃ i < r.absencePoller.attempts, Lacks f.groupName (described i)) ∧
      ∃ k, UpToFirst (fun i => Lacks f.groupName (described i)) r.absencePoller.attempts k ∧
        wait.events = spaced r.absencePoller.interval
          (asks (I := Site.calls) (.describe f.groupName) described k)) ∧
    (deletion.result = .ok () ↔ removal.result = .ok true ∧ wait.result = true) ∧
    (∀ e, removal.result = .error e →
      deletion.result = .error (.deletion f.handle e) ∧ deletion.events = removal.events) ∧
    (removal.result = .ok false →
      deletion.result = .error (.notDeleted f.handle r.deletePoller.attempts) ∧
        deletion.events = removal.events) ∧
    (removal.result = .ok true →
      deletion.events = removal.events ++ wait.events ∧
        (wait.result = false →
          deletion.result = .error (.stillPresent f.groupName budget.seconds.toNat) ∧
          Event.elapsed wait.events / nanosPerSecond = budget.seconds.toNat)) ∧
    ∀ group answer, .asked (Site.Ask.describe group) answer ∉ removal.events := by
  intro heard search removal described wait deletion
  obtain ⟨k, hfirst, hfound, hsearch⟩ := play_awaitAbsence respond list name p t
  obtain ⟨n, hlacking, hgone, hwait, htime⟩ :=
    play_awaitAbsence_listed reply removal.state f.groupName r.absencePoller
  obtain ⟨hrefused, hleft, hremoved⟩ := play_deleteAndConfirm reply s r f
  rw [longestSeconds_of_budget? hbudget] at htime hremoved
  refine ⟨⟨hfound, k, hfirst, hsearch⟩, ⟨hgone, n, hlacking, hwait⟩, ?_, hrefused, hleft, ?_,
    fun group answer => describe_notMem_deleteAndWait reply s _ _ group answer⟩
  · cases hremoval : removal.result with
    | error e => simp [deletion, (hrefused e hremoval).1]
    | ok gone =>
        cases gone with
        | false => simp [deletion, (hleft hremoval).1]
        | true =>
            have hresult : deletion.result = if wait.result then .ok ()
                else .error (.stillPresent f.groupName budget.seconds.toNat) :=
              (hremoved hremoval).1
            rw [hresult]
            cases wait.result <;> simp
  · intro hremoval
    obtain ⟨hresult, hevents⟩ := hremoved hremoval
    refine ⟨hevents, fun hfalse => ⟨hresult.trans ?_, htime hfalse⟩⟩
    rw [if_neg (Bool.eq_false_iff.mp hfalse)]

/-- A site that knows of no resource, and at which no listing succeeds. -/
def deserted (_ : Unit) : (q : Site.Ask) → q.Answer × Unit
  | .create h _ => (.error (.notFound h.name), ())
  | .get h => (.error (.notFound h.name), ())
  | .patch h _ => (.error (.notFound h.name), ())
  | .delete h => (.error (.notFound h.name), ())
  | .describe _ => (.error ⟨"DescribeAutoScalingGroups", none, "dispatch failure"⟩, ())

/-- A runner that looks four times for a group, three halves of a second apart. -/
def hasty : Runner := { ofValues .empty with absencePoller := ⟨4, .ofMillis 1500⟩ }

theorem absence_is_confirmed_by_listings_deserted :
    hasty.absencePoller.budget? = some ⟨4, 500000000⟩ ∧
      ((hasty.deleteAndConfirm ⟨.ofScalingGroup "web", .null⟩).play (I := Site.calls) deserted
        ()).result = .error (.stillPresent "web" 4) := by
  have hbudget : hasty.absencePoller.budget? = some ⟨4, 500000000⟩ := by decide
  obtain ⟨-, -, -, -, -, hremoved, -⟩ := absence_is_confirmed_by_listings deserted () deserted
    (listed "web") "web" hasty.absencePoller () hasty ⟨.ofScalingGroup "web", .null⟩ hbudget
  obtain ⟨-, hpresent⟩ := hremoved rfl
  exact ⟨hbudget, (hpresent rfl).1⟩

end Runner

end ScalingTrials
