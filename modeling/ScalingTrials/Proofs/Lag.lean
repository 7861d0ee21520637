import ScalingTrials.Poll

/-! # Waiting for a world that lags

A task ends in a world with a result and leaves the world behind. Where a world brings what
is waited for after some more attempts, a poller sees it just if it makes more attempts than
that. -/

namespace ScalingTrials

namespace Task

variable {I : Interface} {α β ε σ : Type} {reply : σ → (q : I.Ask) → I.Answer q × σ} {s s' : σ}

/-- What a task ends with in a world, and what it leaves of the world. -/
def outcome (reply : σ → (q : I.Ask) → I.Answer q × σ) (t : Task I α) (s : σ) : α × σ :=
  ((t.play reply s).result, (t.play reply s).state)

@[simp] theorem outcome_done (a : α) : outcome reply (done a : Task I α) s = (a, s) := rfl

@[simp] theorem outcome_sleep (span : Span) (t : Task I α) :
    outcome reply (sleep span t) s = outcome reply t s := rfl

theorem outcome_bind (t : Task I α) (f : α → Task I β) :
    outcome reply (t.bind f) s =
      outcome reply (f (outcome reply t s).1) (outcome reply t s).2 := by
  rw [outcome, play_bind]
  rfl

theorem outcome_bind_of {t : Task I α} {a : α} (h : outcome reply t s = (a, s'))
    (f : α → Task I β) : outcome reply (t.bind f) s = outcome reply (f a) s' := by
  rw [outcome_bind, h]

theorem outcome_andThen_ok {t : Task I (Except ε α)} {a : α} (h : outcome reply t s = (.ok a, s'))
    (f : α → Task I (Except ε β)) : outcome reply (t.andThen f) s = outcome reply (f a) s' := by
  rw [andThen, outcome_bind_of h]

/-! ### Success that hinges on a fact -/

/-- The task succeeds into a good world if the fact holds, and fails into a bad one if not. -/
def Hinges (reply : σ → (q : I.Ask) → I.Answer q × σ) (fact : Prop) (t : Task I (Except ε α))
    (s : σ) (good : α → σ → Prop) (bad : σ → Prop) : Prop :=
  (fact ∧ ∃ a s', outcome reply t s = (.ok a, s') ∧ good a s') ∨
    (¬fact ∧ ∃ e s', outcome reply t s = (.error e, s') ∧ bad s')

variable {fact fact' : Prop} {t : Task I (Except ε α)} {good : α → σ → Prop} {bad : σ → Prop}

theorem Hinges.of_ok {a : α} (h : outcome reply t s = (.ok a, s')) (hgood : good a s') :
    Hinges reply True t s good bad :=
  .inl ⟨trivial, a, s', h, hgood⟩

/-- A task that goes on well from one end and badly from the other hinges on which it is. -/
theorem Hinges.of_ite {γ : Type} [Decidable fact] {first : Task I γ} {c d : γ} {s₁ s₂ : σ}
    {f : γ → Task I (Except ε α)}
    (h : outcome reply first s = if fact then (c, s₁) else (d, s₂))
    (hgood : ∃ a s', outcome reply (f c) s₁ = (.ok a, s') ∧ good a s')
    (hbad : ∃ e s', outcome reply (f d) s₂ = (.error e, s') ∧ bad s') :
    Hinges reply fact (first.bind f) s good bad := by
  by_cases hfact : fact
  · rw [if_pos hfact] at h
    exact .inl ⟨hfact, by rwa [outcome_bind_of h]⟩
  · rw [if_neg hfact] at h
    exact .inr ⟨hfact, by rwa [outcome_bind_of h]⟩

theorem Hinges.congr (h : Hinges reply fact t s good bad) (hfact : fact ↔ fact') :
    Hinges reply fact' t s good bad := by
  rwa [propext hfact] at h

theorem Hinges.bind {δ : Type} {f : Except ε α → Task I (Except δ β)} {good' : β → σ → Prop}
    {bad' : σ → Prop} (h : Hinges reply fact t s good bad)
    (hok : ∀ a s', good a s' → Hinges reply fact' (f (.ok a)) s' good' bad')
    (herror : ∀ e s', bad s' →
      ∃ d s'', outcome reply (f (.error e)) s' = (.error d, s'') ∧ bad' s'') :
    Hinges reply (fact ∧ fact') (t.bind f) s good' bad' := by
  unfold Hinges
  rcases h with ⟨hfact, a, s', ht, hgood⟩ | ⟨hfact, e, s', ht, hbad⟩
  · rw [outcome_bind_of ht]
    rcases hok a s' hgood with ⟨hfact', hrest⟩ | ⟨hfact', hrest⟩
    · exact .inl ⟨⟨hfact, hfact'⟩, hrest⟩
    · exact .inr ⟨fun h => hfact' h.2, hrest⟩
  · rw [outcome_bind_of ht]
    exact .inr ⟨fun h => hfact h.1, herror e s' hbad⟩

theorem Hinges.andThen {f : α → Task I (Except ε β)} {good' : β → σ → Prop}
    (h : Hinges reply fact t s good bad)
    (hf : ∀ a s', good a s' → Hinges reply fact' (f a) s' good' bad) :
    Hinges reply (fact ∧ fact') (t.andThen f) s good' bad :=
  h.bind hf fun e s' hbad => ⟨e, s', rfl, hbad⟩

/-- What is sure to come first changes nothing about what the rest hinges on. -/
theorem Hinges.after {γ : Type} {first : Task I γ} {f : γ → Task I (Except ε α)} {c : γ}
    (hfirst : outcome reply first s = (c, s')) (h : Hinges reply fact (f c) s' good bad) :
    Hinges reply fact (first.bind f) s good bad := by
  unfold Hinges
  rwa [outcome_bind_of hfirst]

/-- Nor does what is sure to succeed in the end. -/
theorem Hinges.andThen_ok {f : α → Task I (Except ε β)} {good' : β → σ → Prop}
    (h : Hinges reply fact t s good bad)
    (hf : ∀ a s', good a s' → ∃ b s'', outcome reply (f a) s' = (.ok b, s'') ∧ good' b s'') :
    Hinges reply fact (t.andThen f) s good' bad := by
  have hsure : ∀ a s', good a s' → Hinges reply True (f a) s' good' bad :=
    fun a s' ha => .inl ⟨trivial, hf a s' ha⟩
  exact (h.andThen hsure).congr (and_iff_left trivial)

theorem Hinges.result_iff {t : Task I (Except ε Unit)} {good : Unit → σ → Prop}
    (h : Hinges reply fact t s good bad) : (t.play reply s).result = .ok () ↔ fact := by
  rcases h with ⟨hfact, a, s', ht, -⟩ | ⟨hfact, e, s', ht, -⟩
  · exact iff_of_true (congrArg Prod.fst ht) hfact
  · have hresult : (t.play reply s).result = .error e := congrArg Prod.fst ht
    exact iff_of_false (by simp [hresult]) hfact

theorem Hinges.state (h : Hinges reply fact t s (fun _ => bad) bad) :
    bad (t.play reply s).state := by
  rcases h with ⟨-, a, s', ht, hend⟩ | ⟨-, e, s', ht, hend⟩
  · rwa [show (t.play reply s).state = s' from congrArg Prod.snd ht]
  · rwa [show (t.play reply s).state = s' from congrArg Prod.snd ht]

end Task

namespace Poller

open ScalingTrials.Task (outcome outcome_bind_of)

variable {I : Interface} {α σ : Type} {reply : σ → (q : I.Ask) → I.Answer q × σ}

/-- A world that brings something to an attempt once `lag` others have brought nothing. -/
structure Lags (reply : σ → (q : I.Ask) → I.Answer q × σ) (attempt : Task I (Option α))
    (late : Nat → σ) (lag : Nat) (a : α) (due : σ) : Prop where
  waits : ∀ left < lag, outcome reply attempt (late (left + 1)) = (none, late left)
  comes : outcome reply attempt (late 0) = (some a, due)

variable {attempt : Task I (Option α)} {late : Nat → σ} {lag : Nat} {a : α} {due : σ}

theorem Lags.of_succ (h : Lags reply attempt late (lag + 1) a due) :
    Lags reply attempt late lag a due :=
  ⟨fun left hleft => h.waits left (Nat.lt_succ_of_lt hleft), h.comes⟩

/-- A lagging world is waited for with success just if there are attempts enough. -/
theorem outcome_retry (h : Lags reply attempt late lag a due) (interval : Span) (n : Nat) :
    outcome reply (retry interval attempt n) (late lag) =
      if lag < n then (some a, due) else (none, late (lag - n)) := by
  induction n generalizing lag with
  | zero => simp [retry]
  | succ n ih =>
      rw [retry, Task.outcome_sleep]
      cases lag with
      | zero => rw [outcome_bind_of h.comes, if_pos (Nat.succ_pos n), Task.outcome_done]
      | succ lag =>
          rw [outcome_bind_of (h.waits lag (Nat.lt_succ_self lag))]
          simpa using ih h.of_succ

theorem outcome_findAfterDelay (h : Lags reply attempt late lag a due) (p : Poller) :
    outcome reply (p.findAfterDelay attempt) (late lag) =
      if lag < p.attempts then (some a, due) else (none, late (lag - p.attempts)) :=
  outcome_retry h p.interval p.attempts

theorem outcome_find (h : Lags reply attempt late lag a due) (p : Poller) :
    outcome reply (p.find attempt) (late lag) =
      if lag < p.attempts then (some a, due) else (none, late (lag - p.attempts)) := by
  rw [find]
  cases hn : p.attempts with
  | zero => simp
  | succ n =>
      have hretry := outcome_retry h p.interval (n + 1)
      rwa [retry, Task.outcome_sleep] at hretry

theorem outcome_await {attempt : Task I Bool} (late : Nat → σ)
    (hwaits : ∀ left < lag, outcome reply attempt (late (left + 1)) = (false, late left))
    (hcomes : outcome reply attempt (late 0) = (true, due)) (p : Poller) :
    outcome reply (p.await attempt) (late lag) =
      if lag < p.attempts then (true, due) else (false, late (lag - p.attempts)) := by
  have hlags : Lags reply
      (attempt.bind fun holds => .done (if holds then some () else none)) late lag () due := by
    constructor
    · intro left hleft
      rw [outcome_bind_of (hwaits left hleft)]
      rfl
    · rw [outcome_bind_of hcomes]
      rfl
  rw [await, Task.outcome_bind, outcome_find hlags p]
  split <;> rfl

end Poller

end ScalingTrials
