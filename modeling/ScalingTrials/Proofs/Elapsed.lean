import ScalingTrials.Proofs.Poll

/-! # How long a task sleeps

A bound on the sleep of a task holds on all of its courses, and adds up along them. That a bound
is met takes one course only, which a responder can follow that recites its answers. -/

namespace ScalingTrials

namespace Task

variable {I : Interface} {α β ε : Type} {t : Task I α} {f : α → Task I β} {m n : Nat} {a : α}
  {b : β} {es : List (Event I)}

/-! ### Bounds -/

/-- No course of the task sleeps for more than so many nanoseconds. -/
def SleepsAtMost (t : Task I α) (n : Nat) : Prop :=
  ∀ es a, t.Course es a → Event.elapsed es ≤ n

theorem SleepsAtMost.mono (h : SleepsAtMost t m) (hmn : m ≤ n) : SleepsAtMost t n :=
  fun es a hc => Nat.le_trans (h es a hc) hmn

theorem sleepsAtMost_done (a : α) : SleepsAtMost (I := I) (.done a) n := by
  intro es a' hc
  obtain ⟨rfl, -⟩ := course_done_iff.mp hc
  exact Nat.zero_le n

theorem sleepsAtMost_sleep {span : Span} (h : SleepsAtMost t n) :
    SleepsAtMost (.sleep span t) (span.toNanos + n) := by
  intro es a hc
  obtain ⟨rest, rfl, hrest⟩ := course_sleep_iff.mp hc
  exact Nat.add_le_add_left (h rest a hrest) _

theorem sleepsAtMost_ask {q : I.Ask} {next : I.Answer q → Task I α}
    (h : ∀ answer, SleepsAtMost (next answer) n) : SleepsAtMost (.ask q next) n := by
  intro es a hc
  obtain ⟨answer, rest, rfl, hrest⟩ := course_ask_iff.mp hc
  exact h answer rest a hrest

theorem SleepsAtMost.bind (ht : SleepsAtMost t m) (hf : ∀ a, SleepsAtMost (f a) n) :
    SleepsAtMost (t.bind f) (m + n) := by
  intro es b hc
  obtain ⟨a, first, second, rfl, hfirst, hsecond⟩ := course_bind_iff.mp hc
  rw [Event.elapsed_append]
  exact Nat.add_le_add (ht first a hfirst) (hf a second b hsecond)

theorem SleepsAtMost.andThen {t : Task I (Except ε α)} {f : α → Task I (Except ε β)}
    (ht : SleepsAtMost t m) (hf : ∀ a, SleepsAtMost (f a) n) :
    SleepsAtMost (t.andThen f) (m + n) := by
  refine ht.bind fun r => ?_
  cases r with
  | error e => exact sleepsAtMost_done _
  | ok a => exact hf a

/-- What follows does not sleep. -/
theorem SleepsAtMost.bind_zero (ht : SleepsAtMost t n) (hf : ∀ a, SleepsAtMost (f a) 0) :
    SleepsAtMost (t.bind f) n :=
  Nat.add_zero n ▸ ht.bind hf

theorem SleepsAtMost.andThen_zero {t : Task I (Except ε α)} {f : α → Task I (Except ε β)}
    (ht : SleepsAtMost t n) (hf : ∀ a, SleepsAtMost (f a) 0) : SleepsAtMost (t.andThen f) n :=
  Nat.add_zero n ▸ ht.andThen hf

theorem SleepsAtMost.map (h : SleepsAtMost t n) (g : α → β) :
    SleepsAtMost (t.bind fun a => .done (g a)) n :=
  h.bind_zero fun a => sleepsAtMost_done (g a)

theorem sleepsAtMost_pause (span : Span) : SleepsAtMost (I := I) (pause span) span.toNanos :=
  Nat.add_zero span.toNanos ▸ sleepsAtMost_sleep (sleepsAtMost_done ())

/-! ### Courses that meet a bound -/

/-- Some course sleeps for just so many nanoseconds and ends with the result. -/
def CanSleep (t : Task I α) (n : Nat) (a : α) : Prop :=
  ∃ es, t.Course es a ∧ Event.elapsed es = n

theorem canSleep_done (a : α) : CanSleep (I := I) (.done a) 0 a := ⟨[], .done a, rfl⟩

theorem canSleep_sleep {span : Span} (h : CanSleep t n a) :
    CanSleep (.sleep span t) (span.toNanos + n) a := by
  obtain ⟨es, hc, rfl⟩ := h
  exact ⟨_, .sleep span hc, rfl⟩

theorem canSleep_ask {q : I.Ask} {next : I.Answer q → Task I α} (answer : I.Answer q)
    (h : CanSleep (next answer) n a) : CanSleep (.ask q next) n a := by
  obtain ⟨es, hc, rfl⟩ := h
  exact ⟨_, .ask q answer hc, rfl⟩

theorem CanSleep.bind (ht : CanSleep t m a) (hf : CanSleep (f a) n b) :
    CanSleep (t.bind f) (m + n) b := by
  obtain ⟨first, hfirst, rfl⟩ := ht
  obtain ⟨second, hsecond, rfl⟩ := hf
  exact ⟨first ++ second, course_bind_iff.mpr ⟨a, first, second, rfl, hfirst, hsecond⟩,
    Event.elapsed_append first second⟩

theorem CanSleep.andThen {t : Task I (Except ε α)} {f : α → Task I (Except ε β)}
    {r : Except ε β} (ht : CanSleep t m (.ok a)) (hf : CanSleep (f a) n r) :
    CanSleep (t.andThen f) (m + n) r :=
  CanSleep.bind ht hf

theorem CanSleep.bind_zero (ht : CanSleep t n a) (hf : CanSleep (f a) 0 b) :
    CanSleep (t.bind f) n b :=
  Nat.add_zero n ▸ ht.bind hf

theorem CanSleep.andThen_zero {t : Task I (Except ε α)} {f : α → Task I (Except ε β)}
    {r : Except ε β} (ht : CanSleep t n (.ok a)) (hf : CanSleep (f a) 0 r) :
    CanSleep (t.andThen f) n r :=
  CanSleep.bind_zero ht hf

theorem CanSleep.map (h : CanSleep t n a) (g : α → β) :
    CanSleep (t.bind fun a => .done (g a)) n (g a) :=
  h.bind_zero (canSleep_done (g a))

theorem canSleep_pause (span : Span) : CanSleep (I := I) (pause span) span.toNanos () :=
  Nat.add_zero span.toNanos ▸ canSleep_sleep (canSleep_done ())

/-! ### A responder for a course -/

open Classical in
/-- Answers as the events tell, in order, and anything where they tell nothing. -/
noncomputable def recite (anything : ∀ q, I.Answer q) :
    List (Event I) → (q : I.Ask) → I.Answer q × List (Event I)
  | [], q => (anything q, [])
  | .slept _ :: es, q => recite anything es q
  | .asked q' answer :: es, q => (if h : q' = q then h ▸ answer else anything q, es)

variable (anything : ∀ q, I.Answer q)

/-- A sleep that is told makes no difference to any answer. -/
theorem play_recite_slept (t : Task I α) (span : Span) (es : List (Event I)) :
    (t.play (recite anything) (.slept span :: es)).result =
        (t.play (recite anything) es).result ∧
      (t.play (recite anything) (.slept span :: es)).events =
        (t.play (recite anything) es).events := by
  induction t with
  | done a => exact ⟨rfl, rfl⟩
  | sleep span' next ih => exact ⟨ih.1, congrArg (Event.slept span' :: ·) ih.2⟩
  | ask q next _ => exact ⟨rfl, rfl⟩

/-- Whoever recites a course takes it again. -/
theorem play_recite (h : Course t es a) :
    (t.play (recite anything) es).result = a ∧ (t.play (recite anything) es).events = es := by
  induction h with
  | done a => exact ⟨rfl, rfl⟩
  | @sleep span next es a _ ih =>
      obtain ⟨hresult, hevents⟩ := play_recite_slept anything next span es
      exact ⟨hresult.trans ih.1, congrArg (Event.slept span :: ·) (hevents.trans ih.2)⟩
  | ask q answer _ ih =>
      obtain ⟨hresult, hevents⟩ := ih
      simp [play, recite, hresult, hevents]

end Task

namespace Poller

open ScalingTrials.Task (CanSleep SleepsAtMost)

variable {I : Interface} {α : Type} {attempt next : Task I (Option α)} {interval : Span} {n : Nat}
  {a : α} {r : Option α}

/-! ### Bounds on polls -/

theorem Judges.sleepsAtMost {β : Type} {look : Task I β} {q : I.Ask} {judge : I.Answer q → β}
    (h : Judges look q judge) : SleepsAtMost look 0 := by
  intro es r hc
  obtain ⟨answer, rfl, -⟩ := h es r hc
  exact Nat.le_refl 0

/-- An attempt that does not sleep leaves it to the rest of the poll. -/
theorem sleepsAtMost_attempt (h : SleepsAtMost attempt 0) (hnext : SleepsAtMost next n) :
    SleepsAtMost (attempt.bind fun
      | some a => .done (some a)
      | none => next) n := by
  have hboth := h.bind (n := n) (f := fun
    | some a => .done (some a)
    | none => next) fun found => by
      cases found with
      | none => exact hnext
      | some a => exact Task.sleepsAtMost_done _
  exact hboth.mono (Nat.le_of_eq (Nat.zero_add n))

theorem sleepsAtMost_retry (h : SleepsAtMost attempt 0) :
    SleepsAtMost (retry interval attempt n) (n * interval.toNanos) := by
  induction n with
  | zero => exact Task.sleepsAtMost_done none
  | succ n ih =>
      rw [Nat.succ_mul, Nat.add_comm (n * _)]
      exact Task.sleepsAtMost_sleep (sleepsAtMost_attempt h ih)

theorem sleepsAtMost_findAfterDelay (h : SleepsAtMost attempt 0) (p : Poller) :
    SleepsAtMost (p.findAfterDelay attempt) (p.attempts * p.interval.toNanos) :=
  sleepsAtMost_retry h

theorem sleepsAtMost_find (h : SleepsAtMost attempt 0) (p : Poller) :
    SleepsAtMost (p.find attempt) ((p.attempts - 1) * p.interval.toNanos) := by
  rw [find]
  cases p.attempts with
  | zero => exact Task.sleepsAtMost_done none
  | succ n => exact sleepsAtMost_attempt h (sleepsAtMost_retry h)

theorem sleepsAtMost_await {attempt : Task I Bool} (h : SleepsAtMost attempt 0) (p : Poller) :
    SleepsAtMost (p.await attempt) ((p.attempts - 1) * p.interval.toNanos) := by
  have hunit := h.map fun holds => if holds then some () else none
  exact (sleepsAtMost_find hunit p).map fun found => found.isSome

/-! ### Polls that meet their bounds -/

theorem canSleep_missed (hmiss : CanSleep attempt 0 none) (hnext : CanSleep next n r) :
    CanSleep (attempt.bind fun
      | some a => .done (some a)
      | none => next) n r :=
  Nat.zero_add n ▸ CanSleep.bind hmiss hnext

theorem canSleep_found (hfind : CanSleep attempt 0 (some a)) :
    CanSleep (attempt.bind fun
      | some a => .done (some a)
      | none => next) 0 (some a) :=
  CanSleep.bind (m := 0) (n := 0) (f := fun
    | some a => .done (some a)
    | none => next) hfind (Task.canSleep_done (some a))

/-- Every attempt can find nothing. -/
theorem canSleep_retry_none (hmiss : CanSleep attempt 0 none) (n : Nat) :
    CanSleep (retry interval attempt n) (n * interval.toNanos) none := by
  induction n with
  | zero =>
      rw [Nat.zero_mul]
      exact Task.canSleep_done none
  | succ n ih =>
      rw [Nat.succ_mul, Nat.add_comm (n * _)]
      exact Task.canSleep_sleep (canSleep_missed hmiss ih)

/-- Every attempt but the last can find nothing. -/
theorem canSleep_retry_some (hmiss : CanSleep attempt 0 none)
    (hfind : CanSleep attempt 0 (some a)) (n : Nat) :
    CanSleep (retry interval attempt (n + 1)) ((n + 1) * interval.toNanos) (some a) := by
  rw [Nat.succ_mul, Nat.add_comm (n * _)]
  refine Task.canSleep_sleep ?_
  induction n with
  | zero =>
      rw [Nat.zero_mul]
      exact canSleep_found hfind
  | succ n ih =>
      rw [Nat.succ_mul, Nat.add_comm (n * _)]
      exact canSleep_missed hmiss (Task.canSleep_sleep ih)

theorem canSleep_findAfterDelay (hmiss : CanSleep attempt 0 none)
    (hfind : CanSleep attempt 0 (some a)) {p : Poller} (hp : 0 < p.attempts) :
    CanSleep (p.findAfterDelay attempt) (p.attempts * p.interval.toNanos) (some a) := by
  obtain ⟨n, hn⟩ := Nat.exists_eq_succ_of_ne_zero (Nat.ne_of_gt hp)
  rw [findAfterDelay, hn]
  exact canSleep_retry_some hmiss hfind n

theorem canSleep_find_none (hmiss : CanSleep attempt 0 none) (p : Poller) :
    CanSleep (p.find attempt) ((p.attempts - 1) * p.interval.toNanos) none := by
  rw [find]
  cases p.attempts with
  | zero =>
      rw [Nat.zero_sub, Nat.zero_mul]
      exact Task.canSleep_done none
  | succ n => exact canSleep_missed hmiss (canSleep_retry_none hmiss n)

theorem canSleep_find_some (hmiss : CanSleep attempt 0 none)
    (hfind : CanSleep attempt 0 (some a)) {p : Poller} (hp : 0 < p.attempts) :
    CanSleep (p.find attempt) ((p.attempts - 1) * p.interval.toNanos) (some a) := by
  obtain ⟨n, hn⟩ := Nat.exists_eq_succ_of_ne_zero (Nat.ne_of_gt hp)
  rw [find, hn]
  cases n with
  | zero =>
      rw [Nat.succ_sub_one, Nat.zero_mul]
      exact canSleep_found hfind
  | succ n => exact canSleep_missed hmiss (canSleep_retry_some hmiss hfind n)

/-- A wait can use up its time, and end well nevertheless if it makes any attempt. -/
theorem canSleep_await {attempt : Task I Bool} (hmiss : CanSleep attempt 0 false)
    (hfind : CanSleep attempt 0 true) (p : Poller) :
    CanSleep (p.await attempt) ((p.attempts - 1) * p.interval.toNanos)
      (decide (0 < p.attempts)) := by
  have hunit : ∀ holds, CanSleep attempt 0 holds → CanSleep
      (attempt.bind fun holds => .done (if holds then some () else none)) 0
      (if holds then some () else none) := fun holds h => h.map _
  cases hp : decide (0 < p.attempts) with
  | true =>
      have hfound := canSleep_find_some (hunit false hmiss) (hunit true hfind)
        (of_decide_eq_true hp)
      exact hfound.map fun found => found.isSome
  | false => exact (canSleep_find_none (hunit false hmiss) p).map fun found => found.isSome

end Poller

end ScalingTrials
