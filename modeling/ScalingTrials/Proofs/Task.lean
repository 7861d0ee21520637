import ScalingTrials.Task

/-! # The courses of a task

A course lists the events of one way in which a task can go, with its result.
No responder is named, so a fact about all courses is one about every responder. -/

namespace ScalingTrials.Task

variable {I : Interface} {α β ε : Type}

/-- Each rule adds the event that the head of the task stands for. -/
inductive Course : Task I α → List (Event I) → α → Prop where
  | done (a : α) : Course (.done a) [] a
  | sleep (span : Span) {next : Task I α} {es : List (Event I)} {a : α} :
      Course next es a → Course (.sleep span next) (.slept span :: es) a
  | ask (q : I.Ask) (answer : I.Answer q) {next : I.Answer q → Task I α} {es : List (Event I)}
      {a : α} : Course (next answer) es a → Course (.ask q next) (.asked q answer :: es) a

/-- Playing a task against a responder takes one of its courses. -/
theorem play_course {σ : Type} (reply : σ → (q : I.Ask) → I.Answer q × σ) (t : Task I α) (s : σ) :
    Course t (t.play reply s).events (t.play reply s).result := by
  induction t generalizing s with
  | done a => exact .done a
  | sleep span next ih => exact .sleep span (ih s)
  | ask q next ih => exact .ask q (reply s q).1 (ih (reply s q).1 (reply s q).2)

@[simp] theorem course_done_iff {a b : α} {es : List (Event I)} :
    Course (.done a) es b ↔ es = [] ∧ b = a := by
  constructor
  · intro h
    cases h
    exact ⟨rfl, rfl⟩
  · rintro ⟨rfl, rfl⟩
    exact .done b

@[simp] theorem course_sleep_iff {span : Span} {next : Task I α} {es : List (Event I)} {a : α} :
    Course (.sleep span next) es a ↔ ∃ rest, es = .slept span :: rest ∧ Course next rest a := by
  constructor
  · intro h
    cases h with
    | sleep _ h => exact ⟨_, rfl, h⟩
  · rintro ⟨rest, rfl, h⟩
    exact .sleep span h

@[simp] theorem course_ask_iff {q : I.Ask} {next : I.Answer q → Task I α} {es : List (Event I)}
    {a : α} :
    Course (.ask q next) es a ↔
      ∃ answer rest, es = .asked q answer :: rest ∧ Course (next answer) rest a := by
  constructor
  · intro h
    cases h with
    | ask _ answer h => exact ⟨answer, _, rfl, h⟩
  · rintro ⟨answer, rest, rfl, h⟩
    exact .ask q answer h

/-- A course of one task after another is a course of each in turn. -/
theorem course_bind_iff {t : Task I α} {f : α → Task I β} {es : List (Event I)} {b : β} :
    Course (t.bind f) es b ↔
      ∃ a first second, es = first ++ second ∧ Course t first a ∧ Course (f a) second b := by
  induction t generalizing es with
  | done a =>
      constructor
      · intro h
        exact ⟨a, [], es, rfl, .done a, h⟩
      · rintro ⟨a, first, second, rfl, ht, hf⟩
        obtain ⟨rfl, rfl⟩ := course_done_iff.mp ht
        exact hf
  | sleep span next ih =>
      constructor
      · intro h
        obtain ⟨rest, rfl, hrest⟩ := course_sleep_iff.mp h
        obtain ⟨a, first, second, rfl, ht, hf⟩ := ih.mp hrest
        exact ⟨a, .slept span :: first, second, rfl, .sleep span ht, hf⟩
      · rintro ⟨a, first, second, rfl, ht, hf⟩
        obtain ⟨rest, rfl, hrest⟩ := course_sleep_iff.mp ht
        exact .sleep span (ih.mpr ⟨a, rest, second, rfl, hrest, hf⟩)
  | ask q next ih =>
      constructor
      · intro h
        obtain ⟨answer, rest, rfl, hrest⟩ := course_ask_iff.mp h
        obtain ⟨a, first, second, rfl, ht, hf⟩ := (ih answer).mp hrest
        exact ⟨a, .asked q answer :: first, second, rfl, .ask q answer ht, hf⟩
      · rintro ⟨a, first, second, rfl, ht, hf⟩
        obtain ⟨answer, rest, rfl, hrest⟩ := course_ask_iff.mp ht
        exact .ask q answer ((ih answer).mpr ⟨a, rest, second, rfl, hrest, hf⟩)

/-- A task that goes on after a success ends in the first failure, if there is one. -/
theorem course_andThen_iff {t : Task I (Except ε α)} {f : α → Task I (Except ε β)}
    {es : List (Event I)} {r : Except ε β} :
    Course (t.andThen f) es r ↔
      (∃ e, Course t es (.error e) ∧ r = .error e) ∨
      ∃ a first second, es = first ++ second ∧ Course t first (.ok a) ∧ Course (f a) second r := by
  rw [andThen, course_bind_iff]
  constructor
  · rintro ⟨a | a, first, second, rfl, ht, hf⟩
    · obtain ⟨rfl, rfl⟩ := course_done_iff.mp hf
      exact .inl ⟨a, by simpa using ht, rfl⟩
    · exact .inr ⟨a, first, second, rfl, ht, hf⟩
  · rintro (⟨e, ht, rfl⟩ | ⟨a, first, second, rfl, ht, hf⟩)
    · exact ⟨.error e, es, [], by simp, ht, .done _⟩
    · exact ⟨.ok a, first, second, rfl, ht, hf⟩

/-- Every success of a task bears out the one predicate, with its events, and every failure
the other. -/
def Ends (t : Task I (Except ε α)) (good : α → List (Event I) → Prop)
    (bad : ε → List (Event I) → Prop) : Prop :=
  ∀ es r, t.Course es r → match r with
    | .ok a => good a es
    | .error e => bad e es

/-- What follows a success is judged together with the events before it. -/
theorem Ends.andThen {t : Task I (Except ε α)} {f : α → Task I (Except ε β)}
    {good : α → List (Event I) → Prop} {bad bad' : ε → List (Event I) → Prop}
    {good' : β → List (Event I) → Prop} (ht : Ends t good bad)
    (hbad : ∀ e es, bad e es → bad' e es)
    (hf : ∀ a first, good a first → Ends (f a) (fun b es => good' b (first ++ es))
      fun e es => bad' e (first ++ es)) : Ends (t.andThen f) good' bad' := by
  intro es r hc
  rcases course_andThen_iff.mp hc with ⟨e, hfailed, rfl⟩ | ⟨a, first, second, rfl, hok, hrest⟩
  · exact hbad e es (ht es _ hfailed)
  · exact hf a first (ht first _ hok) second r hrest

/-- Of two courses with the same answers as far as the shorter goes, neither goes further. -/
theorem Course.unique {t : Task I α} {es es' rest rest' : List (Event I)} {a a' : α}
    (h : Course t es a) (h' : Course t es' a') (heq : es ++ rest = es' ++ rest') :
    es = es' ∧ a = a' := by
  induction h generalizing es' with
  | done a =>
      obtain ⟨rfl, rfl⟩ := course_done_iff.mp h'
      exact ⟨rfl, rfl⟩
  | sleep span _ ih =>
      obtain ⟨es₁, rfl, hnext⟩ := course_sleep_iff.mp h'
      obtain ⟨rfl, rfl⟩ := ih hnext (by simpa using heq)
      exact ⟨rfl, rfl⟩
  | ask q answer _ ih =>
      obtain ⟨answer', es₁, rfl, hnext⟩ := course_ask_iff.mp h'
      simp only [List.cons_append, List.cons.injEq, Event.asked.injEq, heq_eq_eq, true_and] at heq
      obtain ⟨rfl, heq⟩ := heq
      obtain ⟨rfl, rfl⟩ := ih hnext heq
      exact ⟨rfl, rfl⟩

/-! ### The answers of a responder -/

section

variable {σ : Type} {reply : σ → (q : I.Ask) → I.Answer q × σ} {s s' : σ}

/-- The answers among the events are those of a responder, each given from the state that the last
one left. -/
inductive Answered (reply : σ → (q : I.Ask) → I.Answer q × σ) : σ → List (Event I) → Prop where
  | nil (s : σ) : Answered reply s []
  | slept {s : σ} {es : List (Event I)} (span : Span) : Answered reply s es →
      Answered reply s (.slept span :: es)
  | asked {s s' : σ} {q : I.Ask} {answer : I.Answer q} {es : List (Event I)} :
      reply s q = (answer, s') → Answered reply s' es → Answered reply s (.asked q answer :: es)

theorem answered_play (reply : σ → (q : I.Ask) → I.Answer q × σ) (t : Task I α) (s : σ) :
    Answered reply s (t.play reply s).events := by
  induction t generalizing s with
  | done a => exact .nil s
  | sleep span next ih => exact .slept span (ih s)
  | ask q next ih => exact .asked rfl (ih (reply s q).1 (reply s q).2)

theorem Answered.of_append {es es' : List (Event I)} (h : Answered reply s (es ++ es')) :
    Answered reply s es := by
  induction es generalizing s with
  | nil => exact .nil s
  | cons event es ih =>
      cases h with
      | slept span hrest => exact .slept span (ih hrest)
      | asked hreply hrest => exact .asked hreply (ih hrest)

/-- What a responder says to a question is the answer that stands among the events. -/
theorem Answered.of_asked {q : I.Ask} {answer answer' : I.Answer q} {es : List (Event I)}
    (h : Answered reply s (.asked q answer :: es)) (hreply : reply s q = (answer', s')) :
    answer = answer' ∧ Answered reply s' es := by
  cases h with
  | asked hreply' hrest =>
      rw [hreply] at hreply'
      cases hreply'
      exact ⟨rfl, hrest⟩

end

/-! ### What a task asks -/

/-- Whatever it is answered, the task asks only questions of a kind. -/
def OnlyAsks (p : I.Ask → Prop) : Task I α → Prop
  | .done _ => True
  | .sleep _ next => next.OnlyAsks p
  | .ask q next => p q ∧ ∀ answer, (next answer).OnlyAsks p

theorem OnlyAsks.bind {p : I.Ask → Prop} {t : Task I α} {f : α → Task I β} (ht : t.OnlyAsks p)
    (hf : ∀ a, (f a).OnlyAsks p) : (t.bind f).OnlyAsks p := by
  induction t with
  | done a => exact hf a
  | sleep span next ih => exact ih ht
  | ask q next ih => exact ⟨ht.1, fun answer => ih answer (ht.2 answer)⟩

/-- What a task asks through others is what these ask. -/
theorem OnlyAsks.via {J : Interface} {p : I.Ask → Prop} {p' : J.Ask → Prop}
    {answer : (q : I.Ask) → Task J (I.Answer q)} {t : Task I α} (ht : t.OnlyAsks p)
    (hanswer : ∀ q, p q → (answer q).OnlyAsks p') : (t.via answer).OnlyAsks p' := by
  induction t with
  | done a => trivial
  | sleep span next ih => exact ih ht
  | ask q next ih => exact (hanswer q ht.1).bind fun a => ih a (ht.2 a)

/-! ### Questions that are passed on -/

/-- A task whose questions are passed on one by one goes as if the answers were its own. -/
theorem play_via {J : Interface} {σ : Type} {reply : σ → (q : I.Ask) → I.Answer q × σ}
    {reply' : σ → (q : J.Ask) → J.Answer q × σ} {answer : (q : I.Ask) → Task J (I.Answer q)}
    {passed : Event I → Event J} (hslept : ∀ span, passed (.slept span) = .slept span)
    (hasked : ∀ q s, (answer q).play reply' s =
      ⟨(reply s q).1, [passed (.asked q (reply s q).1)], (reply s q).2⟩) (t : Task I α) (s : σ) :
    (t.via answer).play reply' s =
      let p := t.play reply s
      ⟨p.result, p.events.map passed, p.state⟩ := by
  induction t generalizing s with
  | done a => rfl
  | sleep span next ih => simp [via, play, ih, hslept]
  | ask q next ih => simp [via, play, play_bind, ih, hasked]

end ScalingTrials.Task
