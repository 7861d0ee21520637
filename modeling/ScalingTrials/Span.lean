import ScalingTrials.Word

/-!
Lengths of time with nanosecond resolution: a 64-bit count of whole seconds and a part below one
second. Main statement: scaling a span multiplies its nanoseconds, and fails exactly when the whole
seconds of the product do not fit.
-/

namespace ScalingTrials

/-- The number of nanoseconds in a second. -/
abbrev nanosPerSecond : Nat := 1000000000

/-- A length of time: whole seconds that fit 64 bits, and nanoseconds below one second. -/
structure Span where
  seconds : UInt64
  nanos : Fin nanosPerSecond
  deriving DecidableEq, Repr

namespace Span

def ofSeconds (n : UInt64) : Span := ⟨n, 0⟩

def ofMillis (n : UInt64) : Span :=
  ⟨n / 1000, ⟨n.toNat % 1000 * 1000000, by
    have := Nat.mod_lt n.toNat (show 1000 > 0 by decide)
    simp only [nanosPerSecond]
    omega⟩⟩

def zero : Span := ⟨0, 0⟩

/-- The whole length in nanoseconds. -/
def toNanos (s : Span) : Nat := s.seconds.toNat * nanosPerSecond + s.nanos.val

/-- The span that lasts `k` times as long, unless its whole seconds do not fit 64 bits. -/
def scale? (s : Span) (k : Nat) : Option Span :=
  let part := s.nanos.val * k
  let whole := s.seconds.toNat * k + part / nanosPerSecond
  if whole < wordSize then
    some ⟨UInt64.ofNat whole, ⟨part % nanosPerSecond, Nat.mod_lt _ (by decide)⟩⟩
  else
    none

theorem toNanos_ofSeconds (n : UInt64) : (ofSeconds n).toNanos = n.toNat * nanosPerSecond := by
  simp [ofSeconds, toNanos]

theorem toNanos_zero : zero.toNanos = 0 := rfl

theorem toNanos_of_scale? {s t : Span} {k : Nat} (h : s.scale? k = some t) :
    t.toNanos = s.toNanos * k := by
  simp only [scale?] at h
  split at h
  · next hw =>
    cases h
    simp only [toNanos, UInt64.toNat_ofNat']
    rw [Nat.mod_eq_of_lt (show _ < 2 ^ 64 from hw), Nat.add_mul, Nat.add_mul, Nat.add_assoc,
      Nat.mul_comm (_ / _), Nat.div_add_mod, Nat.mul_right_comm]
  · cases h

theorem scale?_eq_none_iff {s : Span} {k : Nat} :
    s.scale? k = none ↔ wordSize ≤ s.toNanos * k / nanosPerSecond := by
  have : s.toNanos * k / nanosPerSecond
      = s.seconds.toNat * k + s.nanos.val * k / nanosPerSecond := by
    rw [toNanos, Nat.add_mul, Nat.mul_right_comm, Nat.add_comm,
      Nat.add_mul_div_right _ _ (by decide), Nat.add_comm]
  rw [this]
  simp only [scale?]
  split <;> simp <;> omega

end Span

end ScalingTrials
