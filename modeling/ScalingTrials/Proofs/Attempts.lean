import ScalingTrials.Poll

/-! # What a poll spends

A poll makes its attempts one after the other, each in the world that those before have left, up
to the first that finds something. All that it adds to them is a sleep between each two, or
before each. Attempts are tasks of any kind: they may ask, sleep and change the world. -/

namespace ScalingTrials

variable {I : Interface} {α β σ : Type}

namespace Task

/-! ### A task done again and again -/

section

variable (reply : σ → (q : I.Ask) → I.Answer q × σ) (t : Task I α) (s : σ)

/-- The world once the task was done `k` times. -/
def worldAfter (s : σ) : Nat → σ
  | 0 => s
  | k + 1 => worldAfter (t.play reply s).state k

/-- How the task goes once it was done `k` times. -/
def again (k : Nat) : Played I σ α := t.play reply (t.worldAfter reply s k)

/-- The events of the first `k` times. -/
def rounds (k : Nat) : List (List (Event I)) :=
  (List.range k).map fun i => (t.again reply s i).events

end

variable {reply : σ → (q : I.Ask) → I.Answer q × σ} {t : Task I α} {s : σ}

@[simp] theorem rounds_zero : t.rounds reply s 0 = [] := rfl

theorem rounds_succ (k : Nat) :
    t.rounds reply s (k + 1) =
      (t.play reply s).events :: t.rounds reply (t.play reply s).state k := by
  rw [rounds, List.range_succ_eq_map, List.map_cons, List.map_map]
  rfl

@[simp] theorem length_rounds (k : Nat) : (t.rounds reply s k).length = k := by
  simp [rounds]

/-- What is made of the result in the end changes nothing else. -/
theorem play_map (t : Task I α) (f : α → β) (s : σ) :
    (t.bind fun a => .done (f a)).play reply s =
      ⟨f (t.play reply s).result, (t.play reply s).events, (t.play reply s).state⟩ := by
  rw [play_bind]
  simp [play]

theorem worldAfter_map (f : α → β) (k : Nat) :
    (t.bind fun a => .done (f a)).worldAfter reply s k = t.worldAfter reply s k := by
  induction k generalizing s with
  | zero => rfl
  | succ k ih => rw [worldAfter, worldAfter, ih, play_map]

theorem again_map (f : α → β) (k : Nat) :
    (t.bind fun a => .done (f a)).again reply s k =
      ⟨f (t.again reply s k).result, (t.again reply s k).events, (t.again reply s k).state⟩ := by
  rw [again, worldAfter_map, play_map]
  rfl

theorem rounds_map (f : α → β) (k : Nat) :
    (t.bind fun a => .done (f a)).rounds reply s k = t.rounds reply s k := by
  simp only [rounds, again_map]

end Task

namespace Poller

/-! ### Where a poll stops -/

/-- Of findings in order, counted from zero, `k` are looked at: up to the first that is
something or, if none of the first `limit` is, these. -/
inductive Stops (findings : Nat → Option α) (limit : Nat) : Nat → Option α → Prop where
  | found {k : Nat} {a : α} : k < limit → (∀ i < k, findings i = none) → findings k = some a →
      Stops findings limit (k + 1) (some a)
  | exhausted : (∀ i < limit, findings i = none) → Stops findings limit limit none

variable {findings : Nat → Option α} {limit k : Nat} {found : Option α}

theorem stops_of_some {a : α} (h : findings 0 = some a) :
    Stops findings (limit + 1) 1 (some a) :=
  .found (Nat.succ_pos limit) (fun i hi => absurd hi (Nat.not_lt_zero i)) h

/-- One more finding in front that is nothing. -/
theorem Stops.cons (hfirst : findings 0 = none)
    (h : Stops (fun i => findings (i + 1)) limit k found) :
    Stops findings (limit + 1) (k + 1) found := by
  have hmissed : ∀ m, (∀ i < m, findings (i + 1) = none) → ∀ i < m + 1, findings i = none := by
    intro m hm i hi
    cases i with
    | zero => exact hfirst
    | succ i => exact hm i (Nat.lt_of_succ_lt_succ hi)
  cases h with
  | found hlimit hbefore hfound => exact .found (Nat.succ_lt_succ hlimit) (hmissed _ hbefore) hfound
  | exhausted hnone => exact .exhausted (hmissed _ hnone)

theorem Stops.unique {k' : Nat} {found' : Option α} (h : Stops findings limit k found)
    (h' : Stops findings limit k' found') : k = k' ∧ found = found' := by
  have hsame : ∀ {i j : Nat} {a b : α}, findings i = some a → findings j = some b →
      (∀ l < i, findings l = none) → (∀ l < j, findings l = none) → i = j := by
    intro i j a b hi hj hbefore hbefore'
    rcases Nat.lt_trichotomy i j with hlt | heq | hgt
    · simp [hbefore' i hlt] at hi
    · exact heq
    · simp [hbefore j hgt] at hj
  cases h with
  | found hlimit hbefore hfound =>
      cases h' with
      | found _ hbefore' hfound' =>
          obtain rfl := hsame hfound hfound' hbefore hbefore'
          exact ⟨rfl, hfound.symm.trans hfound'⟩
      | exhausted hnone => simp [hnone _ hlimit] at hfound
  | exhausted hnone =>
      cases h' with
      | found hlimit _ hfound' => simp [hnone _ hlimit] at hfound'
      | exhausted _ => exact ⟨rfl, rfl⟩

/-! ### The events of a poll -/

/-- Runs of events with a sleep before each. -/
def delayed (interval : Span) (runs : List (List (Event I))) : List (Event I) :=
  runs.flatMap (.slept interval :: ·)

/-- Runs of events with a sleep between each two. -/
def spaced (interval : Span) : List (List (Event I)) → List (Event I)
  | [] => []
  | run :: later => run ++ delayed interval later

theorem elapsed_delayed (interval : Span) (runs : List (List (Event I))) :
    Event.elapsed (delayed interval runs) =
      runs.length * interval.toNanos + Event.elapsed runs.flatten := by
  induction runs with
  | nil => simp [delayed, Event.elapsed]
  | cons run later ih =>
      have hsplit : delayed interval (run :: later) =
          .slept interval :: run ++ delayed interval later := rfl
      rw [hsplit, Event.elapsed_append, ih, Event.elapsed, List.length_cons, List.flatten_cons,
        Event.elapsed_append, Nat.succ_mul]
      omega

theorem elapsed_spaced (interval : Span) (runs : List (List (Event I))) :
    Event.elapsed (spaced interval runs) =
      (runs.length - 1) * interval.toNanos + Event.elapsed runs.flatten := by
  cases runs with
  | nil => simp [spaced, Event.elapsed]
  | cons run later =>
      rw [spaced, Event.elapsed_append, elapsed_delayed, List.length_cons, List.flatten_cons,
        Event.elapsed_append, Nat.add_sub_cancel]
      omega

/-! ### Polls -/

variable {reply : σ → (q : I.Ask) → I.Answer q × σ} {attempt next : Task I (Option α)} {s : σ}
  {interval : Span}

/-- What a poll leaves that has made `k` attempts, with the events between them. -/
def left (reply : σ → (q : I.Ask) → I.Answer q × σ) (attempt : Task I β) (s : σ) (k : Nat)
    (found : α) (arrange : List (List (Event I)) → List (Event I)) : Task.Played I σ α :=
  ⟨found, arrange (attempt.rounds reply s k), attempt.worldAfter reply s k⟩

/-- An attempt that finds nothing leaves the rest to what comes after the next sleep. -/
theorem play_attempt (interval : Span)
    (hnext : ∃ k found,
      Stops (fun i => (attempt.again reply (attempt.play reply s).state i).result) limit k found ∧
      next.play reply (attempt.play reply s).state =
        left reply attempt (attempt.play reply s).state k found (delayed interval)) :
    ∃ k found, Stops (fun i => (attempt.again reply s i).result) (limit + 1) (k + 1) found ∧
      (attempt.bind fun
        | some a => .done (some a)
        | none => next).play reply s =
        left reply attempt s (k + 1) found (spaced interval) := by
  simp only [left, Task.rounds_succ, spaced, Task.play_bind]
  cases hfirst : (attempt.play reply s).result with
  | some a =>
      refine ⟨0, some a, stops_of_some hfirst, ?_⟩
      simp [Task.play, Task.worldAfter, delayed]
  | none =>
      obtain ⟨k, found, hstops, hplay⟩ := hnext
      refine ⟨k, found, hstops.cons hfirst, ?_⟩
      simp [hplay, left, Task.worldAfter]

/-- With a sleep in front, there is one before each attempt. -/
theorem play_sleep {rest : Task I (Option α)}
    (h : rest.play reply s = left reply attempt s (k + 1) found (spaced interval)) :
    (Task.sleep interval rest).play reply s =
      left reply attempt s (k + 1) found (delayed interval) := by
  rw [Task.play, h, left, left, Task.rounds_succ]
  rfl

theorem play_retry (attempt : Task I (Option α)) (s : σ) (n : Nat) :
    ∃ k found, Stops (fun i => (attempt.again reply s i).result) n k found ∧
      (retry interval attempt n).play reply s =
        left reply attempt s k found (delayed interval) := by
  induction n generalizing s with
  | zero => exact ⟨0, none, .exhausted fun i hi => absurd hi (Nat.not_lt_zero i), rfl⟩
  | succ n ih =>
      obtain ⟨k, found, hstops, hplay⟩ := play_attempt interval (ih (attempt.play reply s).state)
      exact ⟨k + 1, found, hstops, play_sleep hplay⟩

theorem play_find (reply : σ → (q : I.Ask) → I.Answer q × σ) (p : Poller)
    (attempt : Task I (Option α)) (s : σ) :
    ∃ k found, Stops (fun i => (attempt.again reply s i).result) p.attempts k found ∧
      (p.find attempt).play reply s = left reply attempt s k found (spaced p.interval) := by
  unfold find
  cases p.attempts with
  | zero => exact ⟨0, none, .exhausted fun i hi => absurd hi (Nat.not_lt_zero i), rfl⟩
  | succ n =>
      obtain ⟨k, found, hstops, hplay⟩ := play_attempt p.interval
        (play_retry attempt (attempt.play reply s).state n)
      exact ⟨k + 1, found, hstops, hplay⟩

theorem play_findAfterDelay (reply : σ → (q : I.Ask) → I.Answer q × σ) (p : Poller)
    (attempt : Task I (Option α)) (s : σ) :
    ∃ k found, Stops (fun i => (attempt.again reply s i).result) p.attempts k found ∧
      (p.findAfterDelay attempt).play reply s =
        left reply attempt s k found (delayed p.interval) :=
  play_retry attempt s p.attempts

theorem play_await (reply : σ → (q : I.Ask) → I.Answer q × σ) (p : Poller)
    (check : Task I Bool) (s : σ) :
    ∃ k found,
      Stops (fun i => if (check.again reply s i).result then some () else none) p.attempts k
        found ∧
      (p.await check).play reply s = left reply check s k found.isSome (spaced p.interval) := by
  obtain ⟨k, found, hstops, hplay⟩ := play_find reply p
    (check.bind fun holds => .done (if holds then some () else none)) s
  simp only [Task.again_map] at hstops
  refine ⟨k, found, hstops, ?_⟩
  rw [await, Task.play_map, hplay, left, left, Task.rounds_map, Task.worldAfter_map]

/-- A poll makes just the attempts up to the first success among those it may make, and gives
that success. It sleeps for one interval less than it makes attempts or, if it waits before
the first as well, for as many; what the attempts sleep themselves comes on top. -/
theorem polls_spend_their_budget (reply : σ → (q : I.Ask) → I.Answer q × σ) (p : Poller)
    (attempt : Task I (Option α)) (check : Task I Bool) (s : σ) :
    (∃ k found, Stops (fun i => (attempt.again reply s i).result) p.attempts k found ∧
      let own := Event.elapsed (attempt.rounds reply s k).flatten
      let soon := (p.find attempt).play reply s
      let late := (p.findAfterDelay attempt).play reply s
      soon = left reply attempt s k found (spaced p.interval) ∧
      Event.elapsed soon.events = (k - 1) * p.interval.toNanos + own ∧
      late = left reply attempt s k found (delayed p.interval) ∧
      Event.elapsed late.events = k * p.interval.toNanos + own) ∧
    ∃ k found,
      Stops (fun i => if (check.again reply s i).result then some () else none) p.attempts k
        found ∧
      let own := Event.elapsed (check.rounds reply s k).flatten
      let soon := (p.await check).play reply s
      soon = left reply check s k found.isSome (spaced p.interval) ∧
      Event.elapsed soon.events = (k - 1) * p.interval.toNanos + own := by
  constructor
  · obtain ⟨k, found, hstops, hsoon⟩ := play_find reply p attempt s
    obtain ⟨k', found', hstops', hlate⟩ := play_findAfterDelay reply p attempt s
    obtain ⟨rfl, rfl⟩ := hstops.unique hstops'
    refine ⟨k, found, hstops, hsoon, ?_, hlate, ?_⟩
    · rw [hsoon, left, elapsed_spaced, Task.length_rounds]
    · rw [hlate, left, elapsed_delayed, Task.length_rounds]
  · obtain ⟨k, found, hstops, hsoon⟩ := play_await reply p check s
    refine ⟨k, found, hstops, hsoon, ?_⟩
    rw [hsoon, left, elapsed_spaced, Task.length_rounds]

end Poller

end ScalingTrials
