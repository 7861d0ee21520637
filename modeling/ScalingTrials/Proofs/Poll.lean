import ScalingTrials.Poll
import ScalingTrials.Proofs.Task

/-! # What a poll does

A poll sleeps and asks, and ends with the first answer that satisfies it. The
attempts considered here ask one question each and judge its answer. -/

namespace ScalingTrials

variable {I : Interface} {α : Type}

/-- Events that are sleeps and occurrences of one question, with answers of a kind. -/
def Polling (q : I.Ask) (kind : I.Answer q → Prop) (es : List (Event I)) : Prop :=
  ∀ e ∈ es, (∃ span, e = .slept span) ∨ ∃ answer, e = .asked q answer ∧ kind answer

@[simp] theorem polling_nil (q : I.Ask) (kind : I.Answer q → Prop) : Polling q kind [] := by
  simp [Polling]

theorem polling_slept (q : I.Ask) (kind : I.Answer q → Prop) (span : Span) :
    Polling q kind [.slept span] := by
  intro e he
  exact .inl ⟨span, List.mem_singleton.mp he⟩

theorem polling_asked {q : I.Ask} {kind : I.Answer q → Prop} {answer : I.Answer q}
    (h : kind answer) : Polling q kind [.asked q answer] := by
  intro e he
  exact .inr ⟨answer, List.mem_singleton.mp he, h⟩

theorem Polling.append {q : I.Ask} {kind : I.Answer q → Prop} {es fs : List (Event I)}
    (h : Polling q kind es) (h' : Polling q kind fs) : Polling q kind (es ++ fs) := by
  intro e he
  rcases List.mem_append.mp he with he | he
  · exact h e he
  · exact h' e he

theorem Polling.mono {q : I.Ask} {kind kind' : I.Answer q → Prop} {es : List (Event I)}
    (h : Polling q kind es) (hkind : ∀ answer, kind answer → kind' answer) :
    Polling q kind' es := by
  intro e he
  rcases h e he with hslept | ⟨answer, hasked, hanswer⟩
  · exact .inl hslept
  · exact .inr ⟨answer, hasked, hkind answer hanswer⟩

namespace Poller

/-- An attempt that asks one question and judges its answer. -/
def Judges (attempt : Task I α) (q : I.Ask) (judge : I.Answer q → α) : Prop :=
  ∀ es r, attempt.Course es r → ∃ answer, es = [.asked q answer] ∧ r = judge answer

theorem judges_ask (q : I.Ask) : Judges (.ask q .done) q id := by
  intro es r hc
  obtain ⟨answer, rest, rfl, hdone⟩ := Task.course_ask_iff.mp hc
  obtain ⟨rfl, rfl⟩ := Task.course_done_iff.mp hdone
  exact ⟨r, rfl, rfl⟩

/-- What is made of a judgement without asking any more is a judgement itself. -/
theorem Judges.bind {β : Type} {attempt : Task I α} {q : I.Ask} {judge : I.Answer q → α}
    {look : α → Task I β} {verdict : α → β} (h : Judges attempt q judge)
    (hlook : ∀ a, look a = .done (verdict a)) :
    Judges (attempt.bind look) q fun answer => verdict (judge answer) := by
  intro es r hc
  obtain ⟨a, first, second, rfl, hattempt, hrest⟩ := Task.course_bind_iff.mp hc
  obtain ⟨answer, rfl, rfl⟩ := h _ _ hattempt
  rw [hlook] at hrest
  obtain ⟨rfl, rfl⟩ := Task.course_done_iff.mp hrest
  exact ⟨answer, rfl, rfl⟩

/-- How a poll can end: with the first answer that is accepted, or without any. -/
inductive Outcome (q : I.Ask) (judge : I.Answer q → Option α) :
    List (Event I) → Option α → Prop where
  | found {tries : List (Event I)} {answer : I.Answer q} {a : α} :
      Polling q (fun answer => judge answer = none) tries → judge answer = some a →
      Outcome q judge (tries ++ [.asked q answer]) (some a)
  | exhausted {es : List (Event I)} :
      Polling q (fun answer => judge answer = none) es → Outcome q judge es none

variable {q : I.Ask} {attempt : Task I (Option α)} {judge : I.Answer q → Option α}
  {es : List (Event I)} {r : Option α}

theorem Outcome.prepend (h : Outcome q judge es r) {before : List (Event I)}
    (hbefore : Polling q (fun answer => judge answer = none) before) :
    Outcome q judge (before ++ es) r := by
  cases h with
  | found htries hanswer =>
      rw [← List.append_assoc]
      exact .found (hbefore.append htries) hanswer
  | exhausted hes => exact .exhausted (hbefore.append hes)

/-- An attempt that finds nothing leaves it to the rest of the poll. -/
theorem outcome_of_attempt (hjudge : Judges attempt q judge) {next : Task I (Option α)}
    (hnext : ∀ es, next.Course es r → Outcome q judge es r)
    (h : (attempt.bind fun
      | some a => .done (some a)
      | none => next).Course es r) : Outcome q judge es r := by
  obtain ⟨found, first, second, rfl, hattempt, hrest⟩ := Task.course_bind_iff.mp h
  obtain ⟨answer, rfl, hfound⟩ := hjudge _ _ hattempt
  cases found with
  | some a =>
      obtain ⟨rfl, rfl⟩ := Task.course_done_iff.mp hrest
      exact .found (polling_nil q _) hfound.symm
  | none => exact (hnext second hrest).prepend (polling_asked hfound.symm)

theorem outcome_of_retry (hjudge : Judges attempt q judge) {interval : Span} {n : Nat}
    (h : (retry interval attempt n).Course es r) : Outcome q judge es r := by
  induction n generalizing es with
  | zero =>
      obtain ⟨rfl, rfl⟩ := Task.course_done_iff.mp h
      exact .exhausted (polling_nil q _)
  | succ n ih =>
      obtain ⟨rest, rfl, hrest⟩ := Task.course_sleep_iff.mp h
      exact (outcome_of_attempt hjudge (fun _ => ih) hrest).prepend (polling_slept q _ interval)

theorem outcome_of_findAfterDelay (hjudge : Judges attempt q judge) {p : Poller}
    (h : (p.findAfterDelay attempt).Course es r) : Outcome q judge es r :=
  outcome_of_retry hjudge h

theorem outcome_of_find (hjudge : Judges attempt q judge) {p : Poller}
    (h : (p.find attempt).Course es r) : Outcome q judge es r := by
  unfold find at h
  split at h
  · obtain ⟨rfl, rfl⟩ := Task.course_done_iff.mp h
    exact .exhausted (polling_nil q _)
  · exact outcome_of_attempt hjudge (fun _ => outcome_of_retry hjudge) h

/-- A wait ends well exactly with the first answer that it waits for. -/
theorem course_await {attempt : Task I Bool} {judge : I.Answer q → Bool}
    (hjudge : Judges attempt q judge) {p : Poller} {b : Bool}
    (h : (p.await attempt).Course es b) :
    b = true ∧ (∃ tries answer, es = tries ++ [.asked q answer] ∧
        Polling q (fun answer => judge answer = false) tries ∧ judge answer = true) ∨
      b = false ∧ Polling q (fun answer => judge answer = false) es := by
  obtain ⟨found, first, second, rfl, hfind, hend⟩ := Task.course_bind_iff.mp h
  obtain ⟨rfl, rfl⟩ := Task.course_done_iff.mp hend
  have hunit : Judges (attempt.bind fun holds => .done (if holds then some () else none)) q
      fun answer => if judge answer then some () else none := hjudge.bind fun _ => rfl
  have hmiss : ∀ answer, (if judge answer then some () else none) = none →
      judge answer = false := by
    intro answer hanswer
    simpa using hanswer
  rw [List.append_nil]
  cases outcome_of_find hunit hfind with
  | found htries hanswer =>
      exact .inl ⟨rfl, _, _, rfl, htries.mono hmiss, by simpa using hanswer⟩
  | exhausted hes => exact .inr ⟨rfl, hes.mono hmiss⟩

end Poller

end ScalingTrials
