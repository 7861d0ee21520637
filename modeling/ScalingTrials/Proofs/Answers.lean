import ScalingTrials.Proofs.Attempts

/-! # What a question finds when it is asked again and again

An attempt that asks one question and judges the answer is decided by the answers alone. A poll of
such attempts asks up to the first answer that it accepts, and only sleeps in between. -/

namespace ScalingTrials

variable {I : Interface} {α β σ : Type}

/-! ### Up to the first -/

/-- Of things in order, counted from zero, `k` are looked at: up to the first with a property or,
if none of the first `limit` has it, these. -/
inductive UpToFirst (P : Nat → Prop) (limit : Nat) : Nat → Prop where
  | found {k : Nat} : k < limit → (∀ i < k, ¬P i) → P k → UpToFirst P limit (k + 1)
  | exhausted : (∀ i < limit, ¬P i) → UpToFirst P limit limit

theorem UpToFirst.le {P : Nat → Prop} {limit k : Nat} (h : UpToFirst P limit k) : k ≤ limit := by
  cases h with
  | found hlimit _ _ => exact hlimit
  | exhausted _ => exact Nat.le_refl limit

namespace Poller.Stops

variable {findings : Nat → Option α} {limit k : Nat} {found : Option α} {P : Nat → Prop}

theorem isSome_iff_exists (h : Stops findings limit k found) :
    found.isSome = true ↔ ∃ i < limit, (findings i).isSome = true := by
  cases h with
  | found hlimit _ hfound => simpa using ⟨_, hlimit, by rw [hfound]; rfl⟩
  | exhausted hnone =>
      suffices ∀ i < limit, ¬(findings i).isSome = true by simpa using this
      intro i hi
      simp [hnone i hi]

/-- What is found is the first that is something. -/
theorem eq_some_iff {a : α} (h : Stops findings limit k found) :
    found = some a ↔ ∃ i < limit, findings i = some a ∧ ∀ j < i, findings j = none := by
  constructor
  · rintro rfl
    cases h with
    | found hlimit hbefore hfound => exact ⟨_, hlimit, hfound, hbefore⟩
  · rintro ⟨i, hlimit, hfound, hbefore⟩
    exact (h.unique (.found hlimit hbefore hfound)).2

/-- Where something is found exactly with a property, it is looked for up to the first that has
the property. -/
theorem upToFirst (h : Stops findings limit k found)
    (hP : ∀ i, (findings i).isSome = true ↔ P i) : UpToFirst P limit k := by
  have hmiss : ∀ i, findings i = none → ¬P i := by
    intro i hi
    rw [← hP, hi]
    exact Bool.false_ne_true
  cases h with
  | found hlimit hbefore hfound =>
      exact .found hlimit (fun i hi => hmiss i (hbefore i hi)) ((hP _).mp (by rw [hfound]; rfl))
  | exhausted hnone => exact .exhausted fun i hi => hmiss i (hnone i hi)

end Poller.Stops

/-! ### Answers in order -/

namespace Task

/-- The attempt that asks one question and judges the answer. -/
def look (q : I.Ask) (judge : I.Answer q → α) : Task I α :=
  (query q).bind fun answer => .done (judge answer)

/-- The answer to a question that was asked `k` times before. -/
def answers (reply : σ → (q : I.Ask) → I.Answer q × σ) (q : I.Ask) (s : σ) (k : Nat) :
    I.Answer q :=
  ((query q).again reply s k).result

/-- The first `k` times that a question is asked, each with its answer. -/
def asks (q : I.Ask) (answers : Nat → I.Answer q) (k : Nat) : List (List (Event I)) :=
  (List.range k).map fun i => [.asked q (answers i)]

/-- What is made of a judgement without asking any more is a judgement itself. -/
theorem look_bind {judge : β → α} {next : β → Task I α} {q : I.Ask} {first : I.Answer q → β}
    (hnext : ∀ b, next b = .done (judge b)) :
    (look q first).bind next = look q fun answer => judge (first answer) := by
  rw [look, bind_bind, look]
  exact congrArg (query q).bind (funext fun answer => hnext (first answer))

variable (reply : σ → (q : I.Ask) → I.Answer q × σ) (q : I.Ask) (judge : I.Answer q → α) (s : σ)

theorem result_again_look (k : Nat) :
    ((look q judge).again reply s k).result = judge (answers reply q s k) := by
  rw [look, again_map]
  rfl

theorem rounds_look (k : Nat) : (look q judge).rounds reply s k = asks q (answers reply q s) k := by
  rw [look, rounds_map]
  rfl

theorem elapsed_asks (answers : Nat → I.Answer q) (k : Nat) :
    Event.elapsed (asks q answers k).flatten = 0 := by
  induction k with
  | zero => rfl
  | succ k ih =>
      rw [asks, List.range_succ, List.map_append, List.flatten_append, Event.elapsed_append,
        ← asks, ih]
      rfl

end Task

namespace Poller

open ScalingTrials.Task (answers asks elapsed_asks look query)

variable (reply : σ → (q : I.Ask) → I.Answer q × σ) (q : I.Ask) (p : Poller) (s : σ)

theorem elapsed_delayed_asks (interval : Span) (seen : Nat → I.Answer q) (k : Nat) :
    Event.elapsed (delayed interval (asks q seen k)) = k * interval.toNanos := by
  rw [elapsed_delayed, elapsed_asks, asks, List.length_map, List.length_range, Nat.add_zero]

theorem elapsed_spaced_asks (interval : Span) (seen : Nat → I.Answer q) (k : Nat) :
    Event.elapsed (spaced interval (asks q seen k)) = (k - 1) * interval.toNanos := by
  rw [elapsed_spaced, elapsed_asks, asks, List.length_map, List.length_range, Nat.add_zero]

/-- A delayed poll asks up to the first answer in which something is found. -/
theorem play_findAfterDelay_look (judge : I.Answer q → Option α) :
    ∃ k found, Stops (fun i => judge (answers reply q s i)) p.attempts k found ∧
      ((p.findAfterDelay (look q judge)).play reply s).result = found ∧
      ((p.findAfterDelay (look q judge)).play reply s).events =
        delayed p.interval (asks q (answers reply q s) k) := by
  obtain ⟨k, found, hstops, hplay⟩ := play_findAfterDelay reply p (look q judge) s
  simp only [Task.result_again_look] at hstops
  refine ⟨k, found, hstops, ?_⟩
  rw [hplay, left, Task.rounds_look]
  exact ⟨rfl, rfl⟩

/-- A wait checks up to the first check that holds. -/
theorem play_await_checks (check : Task I Bool) :
    ∃ k, UpToFirst (fun i => (check.again reply s i).result = true) p.attempts k ∧
      (((p.await check).play reply s).result = true ↔
        ∃ i < p.attempts, (check.again reply s i).result = true) ∧
      ((p.await check).play reply s).events = spaced p.interval (check.rounds reply s k) := by
  obtain ⟨k, found, hstops, hplay⟩ := play_await reply p check s
  have hholds : ∀ i, (if (check.again reply s i).result = true then some () else none).isSome =
      true ↔ (check.again reply s i).result = true := by
    intro i
    cases (check.again reply s i).result <;> simp
  refine ⟨k, hstops.upToFirst hholds, ?_, ?_⟩
  · rw [hplay, left, hstops.isSome_iff_exists]
    simp only [hholds]
  · rw [hplay, left]

/-- A wait asks up to the first answer that it accepts. -/
theorem play_await_look (judge : I.Answer q → Bool) :
    ∃ k, UpToFirst (fun i => judge (answers reply q s i) = true) p.attempts k ∧
      (((p.await (look q judge)).play reply s).result = true ↔
        ∃ i < p.attempts, judge (answers reply q s i) = true) ∧
      ((p.await (look q judge)).play reply s).events =
        spaced p.interval (asks q (answers reply q s) k) := by
  have hchecks := play_await_checks reply p s (look q judge)
  simpa only [Task.result_again_look, Task.rounds_look] using hchecks

end Poller

end ScalingTrials
