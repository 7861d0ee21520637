import ScalingTrials.Proofs.Attempts

/-! # The budget of a poll

A poll that waits between its attempts can sleep for one interval less than it may make attempts,
and no longer. That is its budget, to the nanosecond, wherever a span can hold it. -/

namespace ScalingTrials

/-! ### Spans by their nanoseconds -/

namespace Span

/-- The nanoseconds of a span hold its whole seconds and the part below one. -/
theorem toNanos_eq_iff {s : Span} {n : Nat} :
    s.toNanos = n ↔
      s.seconds.toNat = n / nanosPerSecond ∧ s.nanos.val = n % nanosPerSecond := by
  have hnanos : s.nanos.val < 1000000000 := s.nanos.isLt
  simp only [toNanos, nanosPerSecond]
  omega

theorem toNanos_injective {s t : Span} (h : s.toNanos = t.toNanos) : s = t := by
  obtain ⟨hseconds, hnanos⟩ := toNanos_eq_iff.mp h
  obtain ⟨hseconds', hnanos'⟩ := toNanos_eq_iff.mp (rfl : t.toNanos = t.toNanos)
  rw [← hseconds'] at hseconds
  rw [← hnanos'] at hnanos
  cases s
  cases t
  congr
  · exact UInt64.toNat_inj.mp hseconds
  · exact Fin.ext hnanos

theorem toNanos_div_lt (s : Span) : s.toNanos / nanosPerSecond < wordSize := by
  rw [← (toNanos_eq_iff.mp rfl).1]
  exact s.seconds.toNat_lt

/-- A span that lasts so many times as long is the one with so many times the nanoseconds. -/
theorem scale?_eq_some_iff {s t : Span} {k : Nat} :
    s.scale? k = some t ↔ t.toNanos = s.toNanos * k := by
  constructor
  · exact toNanos_of_scale?
  · intro h
    cases hscaled : s.scale? k with
    | none =>
        have hfits := t.toNanos_div_lt
        have hlarge := scale?_eq_none_iff.mp hscaled
        rw [← h] at hlarge
        omega
    | some u =>
        have hu := toNanos_of_scale? hscaled
        rw [toNanos_injective (hu.trans h.symm)]

end Span

namespace Poller

variable {I : Interface} {α β σ : Type} {reply : σ → (q : I.Ask) → I.Answer q × σ} {s : σ}

/-! ### What is slept beside the attempts -/

/-- Events that are those of `k` attempts in a row, with sleeps of `n` nanoseconds in all before or
between them. -/
structure Spends (reply : σ → (q : I.Ask) → I.Answer q × σ) (attempt : Task I β) (s : σ)
    (arrange : List (List (Event I)) → List (Event I)) (es : List (Event I)) (k n : Nat) :
    Prop where
  events : es = arrange (attempt.rounds reply s k)
  elapsed : Event.elapsed es = n + Event.elapsed (attempt.rounds reply s k).flatten

theorem Stops.le {findings : Nat → Option α} {limit k : Nat} {found : Option α}
    (h : Stops findings limit k found) : k ≤ limit := by
  cases h with
  | found hlimit => exact hlimit
  | exhausted => exact Nat.le_refl _

theorem spends_await (reply : σ → (q : I.Ask) → I.Answer q × σ) (p : Poller) (check : Task I Bool)
    (s : σ) : ∃ k ≤ p.attempts,
      Spends reply check s (spaced p.interval) ((p.await check).play reply s).events k
        ((k - 1) * p.interval.toNanos) := by
  obtain ⟨k, found, hstops, hplay⟩ := play_await reply p check s
  refine ⟨k, hstops.le, ?_, ?_⟩
  · rw [hplay, left]
  · rw [hplay, left, elapsed_spaced, Task.length_rounds]

theorem spends_findAfterDelay (reply : σ → (q : I.Ask) → I.Answer q × σ) (p : Poller)
    (attempt : Task I (Option α)) (s : σ) : ∃ k ≤ p.attempts,
      Spends reply attempt s (delayed p.interval) ((p.findAfterDelay attempt).play reply s).events k
        (k * p.interval.toNanos) := by
  obtain ⟨k, found, hstops, hplay⟩ := play_findAfterDelay reply p attempt s
  refine ⟨k, hstops.le, ?_, ?_⟩
  · rw [hplay, left]
  · rw [hplay, left, elapsed_delayed, Task.length_rounds]

/-- Attempts that never find anything are made as often as allowed. -/
theorem spends_await_of_never (reply : σ → (q : I.Ask) → I.Answer q × σ) (p : Poller) (s : σ) :
    Spends reply (.done false : Task I Bool) s (spaced p.interval)
      ((p.await (.done false)).play reply s).events p.attempts
      ((p.attempts - 1) * p.interval.toNanos) := by
  obtain ⟨k, found, hstops, hplay⟩ := play_await reply p (.done false : Task I Bool) s
  have hnever : ∀ i < p.attempts,
      (if ((.done false : Task I Bool).again reply s i).result then some () else none) = none :=
    fun _ _ => rfl
  obtain ⟨rfl, -⟩ := hstops.unique (.exhausted hnever)
  constructor
  · rw [hplay, left]
  · rw [hplay, left, elapsed_spaced, Task.length_rounds]

/-! ### The budget -/

/-- The interval once for each attempt but the first, in nanoseconds. -/
def longest (p : Poller) : Nat := (p.attempts - 1) * p.interval.toNanos

theorem budget?_eq_some_iff {p : Poller} {b : Span} :
    p.budget? = some b ↔ b.toNanos = p.longest := by
  rw [budget?, Span.scale?_eq_some_iff, longest, Nat.mul_comm]

theorem budget?_eq_none_iff {p : Poller} :
    p.budget? = none ↔ wordSize ≤ p.longest / nanosPerSecond := by
  rw [budget?, Span.scale?_eq_none_iff, longest, Nat.mul_comm]

theorem pauses_le {p : Poller} {k : Nat} (h : k ≤ p.attempts) :
    (k - 1) * p.interval.toNanos ≤ p.longest :=
  Nat.mul_le_mul_right _ (Nat.sub_le_sub_right h 1)

theorem delays_le {p : Poller} {k : Nat} (h : k ≤ p.attempts) :
    k * p.interval.toNanos ≤ p.longest + p.interval.toNanos := by
  calc
    k * p.interval.toNanos ≤ (k - 1 + 1) * p.interval.toNanos :=
      Nat.mul_le_mul_right _ (by omega)
    _ = (k - 1) * p.interval.toNanos + p.interval.toNanos := Nat.succ_mul _ _
    _ ≤ p.longest + p.interval.toNanos := Nat.add_le_add_right (pauses_le h) _

/-- An interval in front as well makes one more, if any attempt is made. -/
theorem mul_interval_eq {p : Poller} {k : Nat} (hpos : 0 < k) (h : k = p.attempts) :
    k * p.interval.toNanos = p.longest + p.interval.toNanos := by
  rw [longest, ← Nat.succ_mul, ← h]
  congr 1
  omega

/-- The budget is the longest that a wait can sleep beside its attempts, and there is none exactly
if its whole seconds do not fit a span. Whatever the attempts do, a wait keeps to it, and uses it
up if it gets to its last attempt. A poll that waits before its first attempt keeps to it until
then, and then exceeds it by one interval. -/
theorem budget_is_longest_sleep (p : Poller) :
    (p.budget? = none ↔ wordSize ≤ p.longest / nanosPerSecond) ∧
    (∀ b, p.budget? = some b ↔ b.toNanos = p.longest) ∧
    (∀ (I : Interface) (σ : Type) (reply : σ → (q : I.Ask) → I.Answer q × σ) (check : Task I Bool)
      (s : σ), ∃ k ≤ p.attempts, ∃ n,
        Spends reply check s (spaced p.interval) ((p.await check).play reply s).events k n ∧
        n ≤ p.longest ∧ (k = p.attempts → n = p.longest)) ∧
    (∀ (I : Interface) (σ : Type) (reply : σ → (q : I.Ask) → I.Answer q × σ) (s : σ),
      Spends reply (.done false : Task I Bool) s (spaced p.interval)
        ((p.await (.done false)).play reply s).events p.attempts p.longest) ∧
    ∀ (I : Interface) (α σ : Type) (reply : σ → (q : I.Ask) → I.Answer q × σ)
      (attempt : Task I (Option α)) (s : σ), ∃ k ≤ p.attempts, ∃ n,
        Spends reply attempt s (delayed p.interval)
          ((p.findAfterDelay attempt).play reply s).events k n ∧
        n ≤ p.longest + p.interval.toNanos ∧ (k < p.attempts → n ≤ p.longest) ∧
        (0 < k → k = p.attempts → n = p.longest + p.interval.toNanos) := by
  refine ⟨budget?_eq_none_iff, fun b => budget?_eq_some_iff, ?_, ?_, ?_⟩
  · intro I σ reply check s
    obtain ⟨k, hk, hspends⟩ := spends_await reply p check s
    refine ⟨k, hk, _, hspends, pauses_le hk, ?_⟩
    intro hlast
    rw [hlast, longest]
  · intro I σ reply s
    exact spends_await_of_never reply p s
  · intro I α σ reply attempt s
    obtain ⟨k, hk, hspends⟩ := spends_findAfterDelay reply p attempt s
    refine ⟨k, hk, _, hspends, delays_le hk, ?_, mul_interval_eq⟩
    intro hbefore
    exact Nat.mul_le_mul_right _ (Nat.le_sub_one_of_lt hbefore)

/-- Parts of a second add up to one that still fits. -/
example : (Poller.mk 3 ⟨0x7fffffffffffffff, 999999999⟩).budget? =
      some ⟨0xffffffffffffffff, 999999998⟩ ∧
    (Poller.mk 3 ⟨0x8000000000000000, 0⟩).budget? = none := by
  decide

end Poller

end ScalingTrials
