import ScalingTrials.Span

/-!
Work that asks questions of a world it does not own and sleeps in between. A task is plain data, so
the same task can be answered by a recorded script, a model or a live service; playing it against
any responder yields its result together with the events in order.
-/

namespace ScalingTrials

/-- A vocabulary of questions, each with the type of its answers. -/
structure Interface where
  Ask : Type
  Answer : Ask → Type

/-- What is left to do: nothing, a sleep, or a question whose answer decides the rest. -/
inductive Task (I : Interface) (α : Type) where
  | done (result : α)
  | sleep (span : Span) (next : Task I α)
  | ask (question : I.Ask) (next : I.Answer question → Task I α)

/-- One thing that a task did. -/
inductive Event (I : Interface) where
  | slept (span : Span)
  | asked (question : I.Ask) (answer : I.Answer question)

namespace Task

variable {I J : Interface} {α β ε : Type}

protected def bind : Task I α → (α → Task I β) → Task I β
  | done a, f => f a
  | sleep s next, f => sleep s (next.bind f)
  | ask q next, f => ask q fun a => (next a).bind f

instance : Monad (Task I) where
  pure := done
  bind := Task.bind

/-- The task that asks one question and returns the answer. -/
def query (q : I.Ask) : Task I (I.Answer q) := ask q done

/-- The task that only sleeps. -/
def pause (s : Span) : Task I Unit := sleep s (done ())

/-- Goes on with the value of a success and stops at a failure. -/
def andThen (t : Task I (Except ε α)) (f : α → Task I (Except ε β)) : Task I (Except ε β) :=
  t.bind fun
    | .error e => done (.error e)
    | .ok a => f a

/-- Answers every question of a task by a task over another vocabulary. -/
def via (answer : (q : I.Ask) → Task J (I.Answer q)) : Task I α → Task J α
  | done a => done a
  | sleep s next => sleep s (next.via answer)
  | ask q next => (answer q).bind fun a => (next a).via answer

/-- What playing a task leaves behind. -/
structure Played (I : Interface) (σ α : Type) where
  result : α
  events : List (Event I)
  state : σ

/-- Answers the questions of a task in order, each from the state that the last answer left. -/
def play {σ : Type} (reply : σ → (q : I.Ask) → I.Answer q × σ) : Task I α → σ → Played I σ α
  | done a, s => ⟨a, [], s⟩
  | sleep span next, s =>
    let rest := next.play reply s
    { rest with events := .slept span :: rest.events }
  | ask q next, s =>
    let (a, s) := reply s q
    let rest := (next a).play reply s
    { rest with events := .asked q a :: rest.events }

theorem pure_eq_done (a : α) : (pure a : Task I α) = done a := rfl

theorem bind_eq (t : Task I α) (f : α → Task I β) : t >>= f = t.bind f := rfl

@[simp] theorem done_bind (a : α) (f : α → Task I β) : (done a).bind f = f a := rfl

@[simp] theorem bind_done (t : Task I α) : t.bind done = t := by
  induction t with
  | done a => rfl
  | sleep s next ih => simp [Task.bind, ih]
  | ask q next ih => simp [Task.bind, ih]

theorem bind_bind {γ : Type} (t : Task I α) (f : α → Task I β) (g : β → Task I γ) :
    (t.bind f).bind g = t.bind fun a => (f a).bind g := by
  induction t with
  | done a => rfl
  | sleep s next ih => simp [Task.bind, ih]
  | ask q next ih => simp [Task.bind, ih]

instance : LawfulMonad (Task I) :=
  LawfulMonad.mk' (Task I) (fun t => bind_done t) (fun a f => done_bind a f) bind_bind

/-- Playing one task after another joins their events. -/
theorem play_bind {σ : Type} (reply : σ → (q : I.Ask) → I.Answer q × σ) (t : Task I α)
    (f : α → Task I β) (s : σ) :
    (t.bind f).play reply s =
      let first := t.play reply s
      let second := (f first.result).play reply first.state
      ⟨second.result, first.events ++ second.events, second.state⟩ := by
  induction t generalizing s with
  | done a => rfl
  | sleep span next ih => simp [Task.bind, play, ih]
  | ask q next ih => simp [Task.bind, play, ih]

end Task

/-- The time that a list of events slept, in nanoseconds. -/
def Event.elapsed {I : Interface} : List (Event I) → Nat
  | [] => 0
  | .slept s :: rest => s.toNanos + elapsed rest
  | .asked _ _ :: rest => elapsed rest

theorem Event.elapsed_append {I : Interface} (es fs : List (Event I)) :
    elapsed (es ++ fs) = elapsed es + elapsed fs := by
  induction es with
  | nil => simp [elapsed]
  | cons e es ih => cases e <;> simp [elapsed, ih, Nat.add_assoc]

end ScalingTrials
