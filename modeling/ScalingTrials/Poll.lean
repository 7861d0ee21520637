import ScalingTrials.Task

/-!
Repeated attempts at a fixed interval. A poller makes a bounded number of attempts, stops at the
first that succeeds and never sleeps after the last one.
-/

namespace ScalingTrials

/-- How often to try, and how long to wait between two attempts. -/
structure Poller where
  attempts : Nat
  interval : Span
  deriving DecidableEq, Repr

namespace Poller

variable {I : Interface} {α : Type}

/-- The interval at which the state of a resource is read until it is synced. -/
def syncInterval : Span := .ofSeconds 10

def sync (attempts : Nat) : Poller := ⟨attempts, syncInterval⟩

/-- Up to `n` attempts, each after a sleep, until one finds something. -/
def retry (interval : Span) (attempt : Task I (Option α)) : Nat → Task I (Option α)
  | 0 => .done none
  | n + 1 => .sleep interval <| attempt.bind fun
    | some a => .done (some a)
    | none => retry interval attempt n

/-- Attempts at once, then after every interval, until one finds something. -/
def find (p : Poller) (attempt : Task I (Option α)) : Task I (Option α) :=
  match p.attempts with
  | 0 => .done none
  | n + 1 => attempt.bind fun
    | some a => .done (some a)
    | none => retry p.interval attempt n

/-- Like `find`, but the first attempt waits for an interval as well. -/
def findAfterDelay (p : Poller) (attempt : Task I (Option α)) : Task I (Option α) :=
  retry p.interval attempt p.attempts

/-- Whether one of the attempts holds. -/
def await (p : Poller) (attempt : Task I Bool) : Task I Bool :=
  (p.find (attempt.bind fun holds => .done (if holds then some () else none))).bind fun found =>
    .done found.isSome

/-- The longest time that `find` can sleep, unless that does not fit a span. -/
def budget? (p : Poller) : Option Span := p.interval.scale? (p.attempts - 1)

/-- What is said of a budget that does not fit a span. -/
def overflowMessage : String := "overflow when multiplying duration by scalar"

end Poller

end ScalingTrials
