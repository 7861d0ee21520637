import ScalingTrials.Proofs.Answers
import ScalingTrials.Proofs.Site

/-! # What the waits at a site report

A wait reads one resource up to the first answer that shows what it waits for, and reports no more
than it has read. Any other answer, an error like a resource that is not made as expected, counts
as not showing it. -/

namespace ScalingTrials

open ScalingTrials.Poller (delayed spaced)
open ScalingTrials.Task (answers asks look)

/-! ### What an answer shows -/

namespace Condition

/-- The resource has a list of conditions, of which the first of the type has the status. -/
def ReportedBy (c : Condition) (resource : Json) : Prop :=
  ∃ status before condition after,
    resource.get? "status" = some status ∧
    status.get? "conditions" = some (.arr (before ++ condition :: after)) ∧
    (∀ other ∈ before, other.get? "type" ≠ some (.str c.kind)) ∧
    condition.get? "type" = some (.str c.kind) ∧
    condition.get? "status" = some (.str c.status)

theorem bind_asString?_eq_some_iff {found : Option Json} {s : String} :
    found.bind Json.asString? = some s ↔ found = some (.str s) := by
  simp [Option.bind_eq_some_iff, Json.asString?_eq_some_iff]

theorem find?_eq_some_iff {resource condition : Json} {kind : String} :
    find? resource kind = some condition ↔ ∃ status before after,
      resource.get? "status" = some status ∧
      status.get? "conditions" = some (.arr (before ++ condition :: after)) ∧
      (∀ other ∈ before, other.get? "type" ≠ some (.str kind)) ∧
      condition.get? "type" = some (.str kind) := by
  have htype : ∀ j : Json, ((j.get? "type").bind Json.asString? == some kind) = true ↔
      j.get? "type" = some (.str kind) := fun j => by
    rw [beq_iff_eq, bind_asString?_eq_some_iff]
  simp only [find?, Option.bind_eq_bind, Option.bind_eq_some_iff, Json.asArray?_eq_some_iff,
    List.find?_eq_some_iff_append, htype]
  constructor
  · rintro ⟨status, hstatus, _, hconditions, _, rfl, hthis, before, after, rfl, hbefore⟩
    refine ⟨status, before, after, hstatus, hconditions, fun other hother => ?_, hthis⟩
    rw [ne_eq, ← htype]
    simpa using hbefore other hother
  · rintro ⟨status, before, after, hstatus, hconditions, hbefore, hthis⟩
    refine ⟨status, hstatus, _, hconditions, _, rfl, hthis, before, after, rfl, ?_⟩
    intro other hother
    have hother := hbefore other hother
    rw [ne_eq, ← htype] at hother
    simpa using hother

theorem reportedBy_iff {c : Condition} {resource : Json} :
    c.ReportedBy resource ↔ (find? resource c.kind).bind statusOf? = some c.status := by
  simp only [ReportedBy, Option.bind_eq_some_iff, find?_eq_some_iff, statusOf?,
    Json.asString?_eq_some_iff, exists_eq_right]
  constructor
  · rintro ⟨status, before, condition, after, hstatus, hlist, hbefore, hkind, hthis⟩
    exact ⟨condition, ⟨status, before, after, hstatus, hlist, hbefore, hkind⟩, hthis⟩
  · rintro ⟨condition, ⟨status, before, after, hstatus, hlist, hbefore, hkind⟩, hthis⟩
    exact ⟨status, before, condition, after, hstatus, hlist, hbefore, hkind, hthis⟩

end Condition

namespace Site

variable {h : Handle} {answer : Except Error Json}

theorem tellsAbsence_error_iff {α : Type} {e : Error} :
    TellsAbsence (.error e : Except Error α) ↔ e.TellsAbsence := by
  simp [TellsAbsence]

theorem isSome_goneBy_iff : (goneBy answer).isSome = true ↔ TellsAbsence answer := by
  cases answer with
  | ok resource => simp [goneBy, TellsAbsence]
  | error e =>
      rw [tellsAbsence_error_iff, ← Error.isNotFound_iff, goneBy]
      cases e.isNotFound <;> simp

/-- The answer is a resource that reports the condition. -/
def Reports (c : Condition) (answer : Except Error Json) : Prop :=
  ∃ resource, answer = .ok resource ∧ c.ReportedBy resource

theorem reports_iff_shows {c : Condition} : Reports c answer ↔ Shows c answer :=
  exists_congr fun _ => and_congr_right fun _ => Condition.reportedBy_iff

/-! ### The attempts of the waits -/

theorem read?_eq (h : Handle) : read? h = look (I := calls) (.get h) Except.toOption := by
  refine congrArg (call (.get h)).bind (funext fun answer => ?_)
  cases answer <;> rfl

theorem gone_eq (h : Handle) : gone h = look (I := calls) (.get h) goneBy := by
  refine congrArg (call (.get h)).bind (funext fun answer => ?_)
  cases answer <;> rfl

theorem await_eq (h : Handle) (c : Condition) :
    await h c = c.poller.await (look (I := calls) (.get h) (reportedIn c)) := by
  rw [await, condition?, read?_eq, Task.look_bind fun _ => rfl, Task.look_bind fun _ => rfl]
  rfl

theorem awaitOwner_eq (h : Handle) (p : Poller) :
    awaitOwner h p = p.findAfterDelay (look (I := calls) (.get h) ownedIn) := by
  rw [awaitOwner, read?_eq, Task.look_bind fun _ => rfl]
  rfl

/-! ### Waiting for what a resource shows -/

variable {σ : Type} (reply : σ → (q : Ask) → q.Answer × σ) (s : σ)

/-- A wait for a condition or for a controller reads the resource and does nothing else but sleep.
It reads up to the first answer that shows what it waits for, or as often as it may, and succeeds
exactly if there is such an answer. -/
theorem waits_report_readings (h : Handle) (c : Condition) (p : Poller) :
    let seen := answers (I := calls) reply (.get h) s
    let synced := (await h c).play (I := calls) reply s
    let owned := (awaitOwner h p).play (I := calls) reply s
    (∃ k, UpToFirst (fun i => Reports c (seen i)) c.poller.attempts k ∧
      synced.events = spaced c.poller.interval (asks (I := calls) (.get h) seen k) ∧
      (synced.result = true ↔ ∃ i < c.poller.attempts, Reports c (seen i))) ∧
    ∃ k, UpToFirst (fun i => ShowsOwner (seen i)) p.attempts k ∧
      owned.events = delayed p.interval (asks (I := calls) (.get h) seen k) ∧
      ∀ resource, owned.result = some resource ↔
        ∃ i < p.attempts, seen i = .ok resource ∧ (resource.get? "status").isSome = true ∧
          ∀ j < i, ¬ShowsOwner (seen j) := by
  intro seen synced owned
  constructor
  · have hwait := Poller.play_await_look (I := calls) reply (.get h) c.poller s (reportedIn c)
    rw [← await_eq] at hwait
    obtain ⟨k, hfirst, hresult, hevents⟩ := hwait
    simp only [reportedIn_iff, ← reports_iff_shows] at hfirst hresult
    exact ⟨k, hfirst, hevents, hresult⟩
  · have hwait := Poller.play_findAfterDelay_look (I := calls) reply (.get h) p s ownedIn
    rw [← awaitOwner_eq] at hwait
    obtain ⟨k, found, hstops, hresult, hevents⟩ := hwait
    refine ⟨k, hstops.upToFirst fun i => isSome_ownedIn_iff, hevents, fun resource => ?_⟩
    rw [hresult, hstops.eq_some_iff]
    simp only [ownedIn_eq_some_iff, ownedIn_eq_none_iff, and_assoc, seen]

/-! ### Waiting for a deletion -/

/-- The work that begins with a call goes on from its answer. -/
theorem play_call {α : Type} (q : Ask) (next : q.Answer → Work α) :
    ((call q).bind next).play (I := calls) reply s =
      let rest := (next (reply s q).1).play (I := calls) reply (reply s q).2
      ⟨rest.result, .asked q (reply s q).1 :: rest.events, rest.state⟩ :=
  rfl

/-- A deletion that fails is not followed by anything, and is reported as done exactly if the error
tells the absence. -/
theorem play_deleteAndWait_of_error {h : Handle} {e : Error}
    (hanswer : (reply s (.delete h)).1 = .error e) (p : Poller) :
    let deletion := (deleteAndWait h p).play (I := calls) reply s
    (∀ e', deletion.result = .error e' ↔ e = e' ∧ ¬e'.TellsAbsence) ∧
      (deletion.result = .ok true ↔ e.TellsAbsence) ∧
      deletion.result ≠ .ok false ∧
      deletion.events = [.asked (.delete h) (.error e)] := by
  intro deletion
  have hdeletion : deletion.result = (if e.isNotFound then .ok true else .error e) ∧
      deletion.events = [.asked (.delete h) (.error e)] := by
    simp only [deletion]
    rw [deleteAndWait, play_call]
    simp only [hanswer]
    exact ⟨rfl, rfl⟩
  obtain ⟨hresult, hevents⟩ := hdeletion
  by_cases htells : e.TellsAbsence
  · rw [if_pos (Error.isNotFound_iff.mpr htells)] at hresult
    have hsame : ∀ e', e = e' → e'.TellsAbsence := fun e' heq => heq ▸ htells
    exact ⟨by simpa [hresult] using hsame, by simp [hresult, htells], by simp [hresult], hevents⟩
  · rw [if_neg (mt Error.isNotFound_iff.mp htells)] at hresult
    have hsame : ∀ e', e = e' → ¬e'.TellsAbsence := fun e' heq => heq ▸ htells
    exact ⟨by simpa [hresult] using hsame, by simp [hresult, htells], by simp [hresult], hevents⟩

/-- A deletion that succeeds is followed by readings up to the first that tells the absence. -/
theorem play_deleteAndWait_of_ok {h : Handle} (hanswer : (reply s (.delete h)).1 = .ok ())
    (p : Poller) :
    let seen := answers (I := calls) reply (.get h) (reply s (.delete h)).2
    ∃ k, UpToFirst (fun i => TellsAbsence (seen i)) p.attempts k ∧
      (∃ gone, ((deleteAndWait h p).play (I := calls) reply s).result = .ok gone ∧
        (gone = true ↔ ∃ i < p.attempts, TellsAbsence (seen i))) ∧
      ((deleteAndWait h p).play (I := calls) reply s).events =
        .asked (.delete h) (.ok ()) ::
          delayed p.interval (asks (I := calls) (.get h) seen k) := by
  intro seen
  obtain ⟨k, found, hstops, hresult, hevents⟩ := Poller.play_findAfterDelay_look (I := calls)
    reply (.get h) p (reply s (.delete h)).2 goneBy
  rw [deleteAndWait, play_call, gone_eq]
  simp only [hanswer, Task.play_map, hresult, hevents]
  refine ⟨k, hstops.upToFirst fun i => isSome_goneBy_iff, ⟨_, rfl, ?_⟩, rfl⟩
  rw [hstops.isSome_iff_exists]
  simp only [isSome_goneBy_iff, seen]

/-- A deletion is asked for once, and reported exactly if it or one of the readings after it told
that the resource does not exist. The readings stop there; a deletion that fails is not followed
by any. -/
theorem deletion_is_reported_with_proof (h : Handle) (p : Poller) :
    let answer := (reply s (.delete h)).1
    let seen := answers (I := calls) reply (.get h) (reply s (.delete h)).2
    let deletion := (deleteAndWait h p).play (I := calls) reply s
    (∀ e, deletion.result = .error e ↔ answer = .error e ∧ ¬e.TellsAbsence) ∧
    (deletion.result = .ok true ↔
      TellsAbsence answer ∨ answer = .ok () ∧ ∃ i < p.attempts, TellsAbsence (seen i)) ∧
    (deletion.result = .ok false ↔
      answer = .ok () ∧ ∀ i < p.attempts, ¬TellsAbsence (seen i)) ∧
    ∃ k, deletion.events = .asked (.delete h) answer ::
        delayed p.interval (asks (I := calls) (.get h) seen k) ∧
      Event.elapsed deletion.events = k * p.interval.toNanos ∧
      (answer ≠ .ok () → k = 0) ∧
      (answer = .ok () → UpToFirst (fun i => TellsAbsence (seen i)) p.attempts k) := by
  intro answer seen deletion
  cases hanswer : answer with
  | error e =>
      obtain ⟨herror, hdone, hleft, hevents⟩ := play_deleteAndWait_of_error reply s hanswer p
      refine ⟨fun e' => ?_, ?_, by simpa using hleft, 0, hevents, ?_, fun _ => rfl,
        fun h => nomatch h⟩
      · rw [herror, Except.error.injEq]
      · simp [hdone, tellsAbsence_error_iff, deletion]
      · simp [deletion, hevents, Event.elapsed]
  | ok done =>
      cases done
      obtain ⟨k, hfirst, ⟨gone, hresult, hgone⟩, hevents⟩ :=
        play_deleteAndWait_of_ok reply s hanswer p
      simp only [deletion, hresult, hevents, Except.ok.injEq]
      refine ⟨by simp, ?_, ?_, k, rfl, ?_, fun h => absurd rfl h, fun _ => hfirst⟩
      · simp [hgone, TellsAbsence, seen]
      · have hleft : gone = false ↔ ¬∃ i < p.attempts, TellsAbsence (seen i) := by
          rw [← hgone, Bool.not_eq_true]
        rw [hleft]
        simp
      · rw [Event.elapsed, Poller.elapsed_delayed_asks]

end Site

end ScalingTrials
