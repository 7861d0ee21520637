import ScalingTrials.Proofs.Poll
import ScalingTrials.Site

/-! # What the waits at a site see

Every wait reads one resource, or describes one group, until an answer shows
what it waits for. -/

namespace ScalingTrials.Site

variable {h : Handle} {es : List (Event calls)}

/-- The answer holds a resource that a controller has given a status. -/
def ShowsOwner (answer : Except Error Json) : Prop :=
  ∃ resource, answer = .ok resource ∧ (resource.get? "status").isSome = true

/-- The answer holds a resource that reports a condition with the wanted status. -/
def Shows (c : Condition) (answer : Except Error Json) : Prop :=
  ∃ resource, answer = .ok resource ∧
    (Condition.find? resource c.kind).bind Condition.statusOf? = some c.status

/-- An error that says that a resource does not exist: the cluster refuses the call with the code
for it, or the client knows by itself. Other codes and whatever else prevents an answer do not
say so. -/
inductive Error.TellsAbsence : Error → Prop where
  | refused (verb : Verb) (h : Handle) {r : Refusal} : r.code = 404 →
      TellsAbsence (.call verb h (.refused r))
  | notFound (what : String) : TellsAbsence (.notFound what)

theorem Error.isNotFound_iff {e : Error} : e.isNotFound = true ↔ e.TellsAbsence := by
  constructor
  · intro he
    cases e with
    | notFound what => exact .notFound what
    | body h text => cases he
    | call verb h cause =>
        cases cause with
        | refused r =>
            have hstatus : (Cause.refused r).status? = some 404 := by
              simpa [isNotFound, status?] using he
            simp only [Cause.status?, Option.ite_none_right_eq_some, Option.some.injEq] at hstatus
            exact .refused verb h hstatus.2
        | unreachable text | undecodable | unaddressable text => cases he
  · rintro (⟨verb, h, hcode⟩ | what)
    · simp [isNotFound, status?, Cause.status?, hcode]
    · rfl

/-- The answer is an error that says that the resource does not exist. -/
def TellsAbsence {α : Type} (answer : Except Error α) : Prop :=
  ∃ e, answer = .error e ∧ e.TellsAbsence

/-- The answer lists no group of a name. -/
def Lacks (name : String) (answer : Except Cloud.Error (List Group)) : Prop :=
  ∃ groups, answer = .ok groups ∧ ∀ g ∈ groups, g.name ≠ name

/-- Events that are sleeps and readings of one resource. -/
abbrev Reads (h : Handle) (kind : Except Error Json → Prop) (es : List (Event calls)) : Prop :=
  Polling (I := calls) (Ask.get h) kind es

/-- Events that are sleeps and descriptions of one group. -/
abbrev Describes (name : String) (kind : Except Cloud.Error (List Group) → Prop)
    (es : List (Event calls)) : Prop :=
  Polling (I := calls) (Ask.describe name) kind es

theorem course_call_iff {q : Ask} {answer : q.Answer} :
    (call q).Course es answer ↔ es = [.asked q answer] := by
  simp only [call, Task.course_ask_iff, Task.course_done_iff]
  constructor
  · rintro ⟨answer', rest, rfl, rfl, rfl⟩
    rfl
  · rintro rfl
    exact ⟨answer, [], rfl, rfl, rfl⟩

/-- A call that is followed by no other judges its answer. -/
theorem judges_call {α : Type} {q : Ask} {look : q.Answer → Work α} {verdict : q.Answer → α}
    (hlook : ∀ answer, look answer = .done (verdict answer)) :
    Poller.Judges ((call q).bind look) q verdict :=
  (Poller.judges_ask (I := calls) q).bind hlook

theorem judges_read? : Poller.Judges (read? h) (Ask.get h) Except.toOption :=
  judges_call fun answer => by cases answer <;> rfl

/-- The resource of a reading, if a controller has given it a status. -/
def ownedIn (answer : Except Error Json) : Option Json :=
  answer.toOption.filter fun resource => (resource.get? "status").isSome

theorem ownedIn_eq_some_iff {answer : Except Error Json} {resource : Json} :
    ownedIn answer = some resource ↔
      answer = .ok resource ∧ (resource.get? "status").isSome = true := by
  cases answer with
  | ok found => simp [ownedIn, Except.toOption, Option.filter_eq_some_iff]
  | error e => simp [ownedIn, Except.toOption]

theorem isSome_ownedIn_iff {answer : Except Error Json} :
    (ownedIn answer).isSome = true ↔ ShowsOwner answer := by
  rw [Option.isSome_iff_exists]
  exact exists_congr fun resource => ownedIn_eq_some_iff

theorem ownedIn_eq_none_iff {answer : Except Error Json} :
    ownedIn answer = none ↔ ¬ShowsOwner answer := by
  rw [← isSome_ownedIn_iff, Option.not_isSome_iff_eq_none]

theorem course_awaitOwner {p : Poller} {r : Option Json} (hc : (awaitOwner h p).Course es r) :
    (∃ resource tries, r = some resource ∧ es = tries ++ [.asked (.get h) (.ok resource)] ∧
        Reads h (fun answer => ¬ShowsOwner answer) tries ∧
        (resource.get? "status").isSome = true) ∨
      r = none ∧ Reads h (fun answer => ¬ShowsOwner answer) es := by
  have hjudge : Poller.Judges ((read? h).bind fun found =>
      .done (found.filter fun resource => (resource.get? "status").isSome)) (Ask.get h) ownedIn :=
    judges_read?.bind fun _ => rfl
  cases Poller.outcome_of_findAfterDelay hjudge hc with
  | found htries hanswer =>
      obtain ⟨rfl, hstatus⟩ := ownedIn_eq_some_iff.mp hanswer
      exact .inl ⟨_, _, rfl, rfl, htries.mono fun _ => ownedIn_eq_none_iff.mp, hstatus⟩
  | exhausted hes => exact .inr ⟨rfl, hes.mono fun _ => ownedIn_eq_none_iff.mp⟩

/-- Whether a reading brings a resource that reports a condition with the wanted status. -/
def reportedIn (c : Condition) (answer : Except Error Json) : Bool :=
  (answer.toOption.bind fun resource => Condition.find? resource c.kind).bind
    Condition.statusOf? == some c.status

theorem reportedIn_iff {c : Condition} {answer : Except Error Json} :
    reportedIn c answer = true ↔ Shows c answer := by
  cases answer with
  | ok resource => simp [reportedIn, Shows, Except.toOption]
  | error e => simp [reportedIn, Shows, Except.toOption]

theorem course_await {c : Condition} {b : Bool} (hc : (await h c).Course es b) :
    (b = true ∧ ∃ resource tries, es = tries ++ [.asked (.get h) (.ok resource)] ∧
        Reads h (fun answer => ¬Shows c answer) tries ∧ Shows c (.ok resource)) ∨
      b = false ∧ Reads h (fun answer => ¬Shows c answer) es := by
  have hjudge : Poller.Judges ((condition? h c.kind).bind fun found =>
      .done (found.bind Condition.statusOf? == some c.status)) (Ask.get h) (reportedIn c) :=
    (judges_read?.bind fun _ => rfl).bind fun _ => rfl
  have hmiss : ∀ answer, reportedIn c answer = false → ¬Shows c answer := by
    intro answer hanswer
    rw [← reportedIn_iff, hanswer]
    exact Bool.false_ne_true
  rcases Poller.course_await hjudge hc with ⟨rfl, tries, answer, rfl, htries, hanswer⟩ | ⟨rfl, hes⟩
  · obtain ⟨resource, rfl, hshows⟩ := reportedIn_iff.mp hanswer
    exact .inl ⟨rfl, resource, tries, rfl, htries.mono hmiss, resource, rfl, hshows⟩
  · exact .inr ⟨rfl, hes.mono hmiss⟩

/-- What a reading says about whether the resource is gone. -/
def goneBy : Except Error Json → Option Unit
  | .ok _ => none
  | .error e => if e.isNotFound then some () else none

theorem goneBy_eq_some {answer : Except Error Json} (h : goneBy answer = some ()) :
    TellsAbsence answer := by
  cases answer with
  | ok resource => simp [goneBy] at h
  | error e => exact ⟨e, rfl, Error.isNotFound_iff.mp (by simpa [goneBy] using h)⟩

theorem goneBy_eq_none {answer : Except Error Json} (h : goneBy answer = none) :
    ¬TellsAbsence answer := by
  rintro ⟨e, rfl, habsent⟩
  simp [goneBy, Error.isNotFound_iff.mpr habsent] at h

theorem judges_gone : Poller.Judges (gone h) (Ask.get h) goneBy :=
  judges_call fun answer => by cases answer <;> rfl

/-- How a removal can go: it is asked for once, and then the resource is read until a
reading is refused because there is nothing to read. -/
inductive Removal (h : Handle) : Except Error Bool → List (Event calls) → Prop where
  | absent {answer : Except Error Unit} : TellsAbsence answer →
      Removal h (.ok true) [.asked (.delete h) answer]
  | gone {tries : List (Event calls)} {answer : Except Error Json} :
      Reads h (fun answer => ¬TellsAbsence answer) tries → TellsAbsence answer →
      Removal h (.ok true) (.asked (.delete h) (.ok ()) :: (tries ++ [.asked (.get h) answer]))
  | left {tries : List (Event calls)} : Reads h (fun answer => ¬TellsAbsence answer) tries →
      Removal h (.ok false) (.asked (.delete h) (.ok ()) :: tries)
  | refused {e : Error} : ¬e.TellsAbsence →
      Removal h (.error e) [.asked (.delete h) (.error e)]

theorem course_deleteAndWait {p : Poller} {r : Except Error Bool}
    (hc : (deleteAndWait h p).Course es r) : Removal h r es := by
  obtain ⟨answer, first, second, rfl, hcall, hrest⟩ := Task.course_bind_iff.mp hc
  obtain rfl := course_call_iff.mp hcall
  cases answer with
  | ok _ =>
      obtain ⟨found, polls, last, rfl, hpoll, hdone⟩ := Task.course_bind_iff.mp hrest
      obtain ⟨rfl, rfl⟩ := Task.course_done_iff.mp hdone
      rw [List.append_nil]
      cases Poller.outcome_of_findAfterDelay judges_gone hpoll with
      | found htries hanswer =>
          exact .gone (htries.mono fun _ => goneBy_eq_none) (goneBy_eq_some hanswer)
      | exhausted hes => exact .left (hes.mono fun _ => goneBy_eq_none)
  | error e =>
      obtain ⟨rfl, rfl⟩ := Task.course_done_iff.mp hrest
      by_cases habsent : e.TellsAbsence
      · rw [if_pos (Error.isNotFound_iff.mpr habsent)]
        exact .absent ⟨e, rfl, habsent⟩
      · rw [if_neg (mt Error.isNotFound_iff.mp habsent)]
        exact .refused habsent

/-- A removal is one deletion with only readings after it. -/
theorem Removal.eq_delete_append {r : Except Error Bool} (hr : Removal h r es) :
    ∃ answer polls, es = .asked (.delete h) answer :: polls ∧ Reads h (fun _ => True) polls := by
  cases hr with
  | absent _ => exact ⟨_, [], rfl, polling_nil _ _⟩
  | gone htries _ =>
      exact ⟨_, _, rfl, (htries.mono fun _ _ => trivial).append (polling_asked trivial)⟩
  | left htries => exact ⟨_, _, rfl, htries.mono fun _ _ => trivial⟩
  | refused _ => exact ⟨_, [], rfl, polling_nil _ _⟩

/-! ### The absence of a group -/

/-- The names of the groups that a description brings. -/
def namesOf (answer : Except Cloud.Error (List Group)) : Except Cloud.Error (List String) :=
  answer.map fun groups => groups.map fun g => g.name

/-- Whether a list of names was brought that is without one. -/
def isWithout (name : String) : Except Cloud.Error (List String) → Bool
  | .ok names => !names.any fun n => n = name
  | .error _ => false

theorem isWithout_iff {name : String} {answer : Except Cloud.Error (List Group)} :
    isWithout name (namesOf answer) = true ↔ Lacks name answer := by
  cases answer with
  | ok groups => simp [isWithout, namesOf, Except.map, Lacks]
  | error e => simp [isWithout, namesOf, Except.map, Lacks]

theorem course_awaitAbsence {name : String} {p : Poller} {b : Bool}
    {list : Work (Except Cloud.Error (List String))}
    (hlist : Poller.Judges list (Ask.describe name) namesOf)
    (hc : (awaitAbsence list name p).Course es b) :
    (b = true ∧ ∃ tries answer, es = tries ++ [.asked (.describe name) answer] ∧
        Describes name (fun answer => ¬Lacks name answer) tries ∧ Lacks name answer) ∨
      b = false ∧ Describes name (fun answer => ¬Lacks name answer) es := by
  have hfalse : ∀ answer, isWithout name (namesOf answer) = false → ¬Lacks name answer := by
    intro answer hanswer hlacks
    simp [isWithout_iff.mpr hlacks] at hanswer
  have hjudge : ∀ look : Except Cloud.Error (List String) → Work Bool,
      (∀ names, look names = .done (isWithout name names)) →
      Poller.Judges (list.bind look) (Ask.describe name) fun answer =>
        isWithout name (namesOf answer) := fun _ => hlist.bind
  have hwait := Poller.course_await (hjudge _ fun names => by cases names <;> rfl) hc
  rcases hwait with ⟨rfl, tries, answer, rfl, htries, hanswer⟩ | ⟨rfl, hes⟩
  · exact .inl ⟨rfl, tries, answer, rfl, htries.mono hfalse, isWithout_iff.mp hanswer⟩
  · exact .inr ⟨rfl, hes.mono hfalse⟩

/-! ### What a list of events asks for -/

/-- An event of a resource's life: a sleep, a description of some group, or a reading or
a change of the resource. -/
inductive Visit (h : Handle) : Event calls → Prop where
  | slept (span : Span) : Visit h (.slept span)
  | get (answer : Except Error Json) : Visit h (.asked (.get h) answer)
  | patch (change : Json) (answer : Except Error Json) : Visit h (.asked (.patch h change) answer)
  | describe (name : String) (answer : Except Cloud.Error (List Group)) :
      Visit h (.asked (.describe name) answer)

theorem visit_of_polling {q : Ask} {kind : q.Answer → Prop}
    (hq : ∀ answer, Visit h (.asked q answer)) (hes : Polling (I := calls) q kind es) :
    ∀ e ∈ es, Visit h e := by
  intro e he
  rcases hes e he with ⟨span, rfl⟩ | ⟨answer, rfl, -⟩
  · exact .slept span
  · exact hq answer

/-- The questions of a list of events, as far as they are of interest. -/
def asked {β : Type} (pick : Ask → Option β) (es : List (Event calls)) : List β :=
  es.filterMap fun
    | .slept _ => none
    | .asked q _ => pick q

@[simp] theorem asked_nil {β : Type} (pick : Ask → Option β) : asked pick [] = [] := rfl

@[simp] theorem asked_slept {β : Type} (pick : Ask → Option β) (span : Span) :
    asked pick (.slept span :: es) = asked pick es := rfl

@[simp] theorem asked_asked {β : Type} (pick : Ask → Option β) (q : Ask) (answer : q.Answer) :
    asked pick (.asked q answer :: es) = (pick q).toList ++ asked pick es := by
  cases hq : pick q with
  | none => simp [asked, hq]
  | some b => simp [asked, hq]

@[simp] theorem asked_append {β : Type} (pick : Ask → Option β) (es fs : List (Event calls)) :
    asked pick (es ++ fs) = asked pick es ++ asked pick fs :=
  List.filterMap_append

theorem asked_polling {β : Type} {pick : Ask → Option β} {q : Ask} {kind : q.Answer → Prop}
    (hes : Polling (I := calls) q kind es) (hq : pick q = none) : asked pick es = [] := by
  rw [asked, List.filterMap_eq_nil_iff]
  intro e he
  rcases hes e he with ⟨span, rfl⟩ | ⟨answer, rfl, -⟩
  · rfl
  · exact hq

/-- The resource that a call makes. -/
def Ask.made? : Ask → Option Handle
  | .create h _ => some h
  | _ => none

/-- The resource that a call deletes. -/
def Ask.deleted? : Ask → Option Handle
  | .delete h => some h
  | _ => none

/-- The change that a call makes. -/
def Ask.change? : Ask → Option Json
  | .patch _ change => some change
  | _ => none

theorem asked_visits {β : Type} {pick : Ask → Option β} (hes : ∀ e ∈ es, Visit h e)
    (hget : pick (.get h) = none) (hpatch : ∀ change, pick (.patch h change) = none)
    (hdescribe : ∀ name, pick (.describe name) = none) : asked pick es = [] := by
  rw [asked, List.filterMap_eq_nil_iff]
  intro e he
  cases hes e he with
  | slept span => rfl
  | get answer => exact hget
  | patch change answer => exact hpatch change
  | describe name answer => exact hdescribe name

/-- Events of a resource's life, behind its creation and around its deletion, make and
delete nothing else. -/
theorem asked_life (body made : Json) (answer : Except Error Unit)
    {before after : List (Event calls)} (hbefore : ∀ e ∈ before, Visit h e)
    (hafter : ∀ e ∈ after, Visit h e) :
    asked Ask.made? (.asked (.create h body) (.ok made) ::
        (before ++ .asked (.delete h) answer :: after)) = [h] ∧
      asked Ask.deleted? (.asked (.create h body) (.ok made) ::
        (before ++ .asked (.delete h) answer :: after)) = [h] := by
  have hmade : ∀ {es : List (Event calls)}, (∀ e ∈ es, Visit h e) → asked Ask.made? es = [] :=
    fun hes => asked_visits hes rfl (fun _ => rfl) fun _ => rfl
  have hdeleted : ∀ {es : List (Event calls)}, (∀ e ∈ es, Visit h e) →
      asked Ask.deleted? es = [] :=
    fun hes => asked_visits hes rfl (fun _ => rfl) fun _ => rfl
  constructor
  · simp [hmade hbefore, hmade hafter, Ask.made?]
  · simp [hdeleted hbefore, hdeleted hafter, Ask.deleted?]

end ScalingTrials.Site
