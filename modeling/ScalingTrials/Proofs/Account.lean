import Mathlib.Logic.Function.Basic
import ScalingTrials.Preparation
import ScalingTrials.Proofs.Task

/-! # Launch templates in an account

An account answers the calls of a task one by one. Any call may fail, and others may work
on templates of other names meanwhile. What a task leaves behind of one name is stated for
all answers that the account can give. -/

namespace ScalingTrials.Cloud

/-- The ids of the launch templates of an account, by name. -/
abbrev Account := String → Option String

/-- The account without the templates of an id. -/
def Account.without (a : Account) (id : String) : Account := fun name =>
  if a name = some id then none else a name

/-- An answer that a call can get, and the account after it. Only a deletion that fails may
have had its effect. -/
inductive Answers : Account → (q : Ask) → Except Error q.Result → Account → Prop where
  | networks (a : Account) (answer : Except Error (List String)) :
      Answers a .defaultNetworks answer a
  | subnets (a : Account) (network : String) (answer : Except Error (List Subnet)) :
      Answers a (.subnets network) answer a
  | images (a : Account) (owner pattern : String) (answer : Except Error (List Image)) :
      Answers a (.images owner pattern) answer a
  | made {a : Account} {request : TemplateRequest} {id : String} : a request.name = none →
      id ≠ "" → Answers a (.createTemplate request) (.ok id)
        (Function.update a request.name (some id))
  | notMade (a : Account) (request : TemplateRequest) (e : Error) :
      Answers a (.createTemplate request) (.error e) a
  | looked (a : Account) (name : String) : Answers a (.templateId name) (.ok (a name)) a
  | notLooked (a : Account) (name : String) (e : Error) :
      Answers a (.templateId name) (.error e) a
  | deleted (a : Account) (id : String) : Answers a (.deleteTemplate id) (.ok ()) (a.without id)
  | absent {a : Account} {id : String} (e : Error) : (∀ name, a name ≠ some id) →
      Answers a (.deleteTemplate id) (.error e) a
  | notDeleted {a b : Account} {id : String} {e : Error} : e.code ≠ some noTemplateCode →
      b = a ∨ b = a.without id → Answers a (.deleteTemplate id) (.error e) b

/-- The account answers every call of a list of events in turn, and nobody else touches the
template of one name. -/
inductive Follows (name : String) : Account → List (Event calls) → Account → Prop where
  | nil (a : Account) : Follows name a [] a
  | meanwhile {a b c : Account} {es : List (Event calls)} : b name = a name →
      Follows name b es c → Follows name a es c
  | slept (span : Span) {a b : Account} {es : List (Event calls)} :
      Follows name a es b → Follows name a (.slept span :: es) b
  | asked {a b c : Account} {q : Ask} {answer : Except Error q.Result} {es : List (Event calls)} :
      Answers a q answer b → Follows name b es c → Follows name a (.asked q answer :: es) c

variable {name : String} {a b c : Account} {es fs : List (Event calls)} {α β : Type}

theorem follows_nil (h : Follows name a [] b) : b name = a name := by
  generalize hnil : ([] : List (Event calls)) = es at h
  induction h with
  | nil a => rfl
  | meanwhile hsame _ ih => exact (ih hnil).trans hsame
  | slept | asked => cases hnil

theorem follows_asked {q : Ask} {answer : Except Error q.Result}
    (h : Follows name a (.asked q answer :: es) c) :
    ∃ a' b, a' name = a name ∧ Answers a' q answer b ∧ Follows name b es c := by
  generalize hcons : Event.asked q answer :: es = fs at h
  induction h with
  | nil a => cases hcons
  | meanwhile hsame _ ih =>
      obtain ⟨a', b, ha, hanswer, hrest⟩ := ih hcons
      exact ⟨a', b, ha.trans hsame, hanswer, hrest⟩
  | slept => cases hcons
  | @asked a b c q answer es hanswer hrest =>
      cases hcons
      exact ⟨a, b, rfl, hanswer, hrest⟩

theorem follows_append (h : Follows name a (es ++ fs) c) :
    ∃ b, Follows name a es b ∧ Follows name b fs c := by
  generalize happend : es ++ fs = gs at h
  induction h generalizing es with
  | nil a =>
      obtain ⟨rfl, rfl⟩ := List.append_eq_nil_iff.mp happend
      exact ⟨a, .nil a, .nil a⟩
  | meanwhile hsame _ ih =>
      obtain ⟨b, hfirst, hsecond⟩ := ih happend
      exact ⟨b, .meanwhile hsame hfirst, hsecond⟩
  | @slept span a c gs hrest ih =>
      cases es with
      | nil =>
          rw [List.nil_append] at happend
          exact ⟨a, .nil a, happend ▸ .slept span hrest⟩
      | cons e es =>
          obtain ⟨rfl, htail⟩ := List.cons.inj happend
          obtain ⟨b, hfirst, hsecond⟩ := ih htail
          exact ⟨b, .slept span hfirst, hsecond⟩
  | @asked a b c q answer gs hanswer hrest ih =>
      cases es with
      | nil =>
          rw [List.nil_append] at happend
          exact ⟨a, .nil a, happend ▸ .asked hanswer hrest⟩
      | cons e es =>
          obtain ⟨rfl, htail⟩ := List.cons.inj happend
          obtain ⟨b, hfirst, hsecond⟩ := ih htail
          exact ⟨b, .asked hanswer hfirst, hsecond⟩

/-! ### Deletions -/

/-- The answer that no template has the id any more. -/
def IsGone (answer : Except Error Unit) : Prop :=
  answer = .ok () ∨ ∃ e, answer = .error e ∧ e.code = some noTemplateCode

theorem Account.without_eq_some {id id' name : String} :
    a.without id name = some id' ↔ a name = some id' ∧ id' ≠ id := by
  unfold without
  split
  · next h =>
      simp only [h, reduceCtorEq, Option.some.injEq, false_iff]
      rintro ⟨rfl, h⟩
      exact h rfl
  · next h => exact ⟨fun h' => ⟨h', by rintro rfl; exact h h'⟩, And.left⟩

/-- A deletion makes no template, and whoever learns that it is gone can rely on it. -/
theorem answers_deleteTemplate {id : String} {answer : Except Error Unit}
    (h : Answers a (.deleteTemplate id) answer b) :
    (∀ name id', b name = some id' → a name = some id') ∧
      (IsGone answer → ∀ name, b name ≠ some id) := by
  have hwithout : ∀ name id', a.without id name = some id' → a name = some id' :=
    fun _ _ hheld => (Account.without_eq_some.mp hheld).1
  cases h with
  | deleted =>
      exact ⟨hwithout, fun _ name hheld => (Account.without_eq_some.mp hheld).2 rfl⟩
  | absent e hnone => exact ⟨fun _ _ hheld => hheld, fun _ => hnone⟩
  | notDeleted hcode hb =>
      refine ⟨?_, ?_⟩
      · rcases hb with rfl | rfl
        · exact fun _ _ hheld => hheld
        · exact hwithout
      · rintro (hok | ⟨e, he, hgone⟩)
        · cases hok
        · cases he
          exact absurd hgone hcode

/-! ### What a task leaves behind -/

variable {held : Option String}

/-- Whoever holds the name at first, the result and the holder at the end are as wanted. -/
def After (name : String) (held : Option String) (t : Task calls α)
    (wanted : α → Option String → Prop) : Prop :=
  ∀ a es r b, a name = held → t.Course es r → Follows name a es b → wanted r (b name)

theorem after_done {r : α} {wanted : α → Option String → Prop} (h : wanted r held) :
    After name held (.done r) wanted := by
  intro a es r' b hheld hc hfollows
  obtain ⟨rfl, rfl⟩ := Task.course_done_iff.mp hc
  rw [follows_nil hfollows, hheld]
  exact h

theorem after_call {q : Ask} {f : Except Error q.Result → Task calls α}
    {wanted : α → Option String → Prop}
    (h : ∀ answer a b, a name = held → Answers a q answer b →
      After name (b name) (f answer) wanted) :
    After name held ((call q).bind f) wanted := by
  intro a es r c hheld hc hfollows
  obtain ⟨answer, rest, rfl, hrest⟩ := Task.course_ask_iff.mp hc
  obtain ⟨a', b, hsame, hanswer, hrest'⟩ := follows_asked hfollows
  exact h answer a' b (hsame.trans hheld) hanswer b rest r c rfl hrest hrest'

theorem After.bind {t : Task calls α} {f : α → Task calls β}
    {middle : α → Option String → Prop} {wanted : β → Option String → Prop}
    (ht : After name held t middle)
    (hf : ∀ r held', middle r held' → After name held' (f r) wanted) :
    After name held (t.bind f) wanted := by
  intro a es r c hheld hc hfollows
  obtain ⟨x, first, second, rfl, hfirst, hsecond⟩ := Task.course_bind_iff.mp hc
  obtain ⟨b, hfollows₁, hfollows₂⟩ := follows_append hfollows
  exact hf x _ (ht a first x b hheld hfirst hfollows₁) b second r c rfl hsecond hfollows₂

theorem After.andThen {ε : Type} {t : Task calls (Except ε α)}
    {f : α → Task calls (Except ε β)} {middle : Except ε α → Option String → Prop}
    {wanted : Except ε β → Option String → Prop} (ht : After name held t middle)
    (herror : ∀ e held', middle (.error e) held' → wanted (.error e) held')
    (hok : ∀ r held', middle (.ok r) held' → After name held' (f r) wanted) :
    After name held (t.andThen f) wanted := by
  refine ht.bind fun r held' hmiddle => ?_
  cases r with
  | error e => exact after_done (herror e held' hmiddle)
  | ok r => exact hok r held' hmiddle

end ScalingTrials.Cloud

namespace ScalingTrials.Preparation

open Cloud (After)

variable {name : String} {held : Option String}

/-! ### Preparing an account -/

theorem after_network : After name held network fun _ held' => held' = held := by
  refine Cloud.after_call fun answer a b ha hanswer => ?_
  cases hanswer
  split <;> exact Cloud.after_done ha

theorem after_subnetsOf (network : String) :
    After name held (subnetsOf network) fun _ held' => held' = held := by
  refine Cloud.after_call fun answer a b ha hanswer => ?_
  cases hanswer
  split <;> exact Cloud.after_done ha

theorem after_imageAmong (patterns : List String) :
    After name held (imageAmong patterns) fun _ held' => held' = held := by
  induction patterns with
  | nil => exact Cloud.after_done rfl
  | cons pattern rest ih =>
      refine Cloud.after_call fun answer a b ha hanswer => ?_
      cases hanswer
      subst ha
      cases answer with
      | error e => exact Cloud.after_done rfl
      | ok found =>
          simp only
          split
          · exact Cloud.after_done rfl
          · exact ih

/-- The template of a name has the id that is told, which it had before unless it was made
with an id that is not empty. A failure leaves it as it was. -/
def Settled (held : Option String) {ε : Type} : Except ε String → Option String → Prop
  | .ok id, held' => held' = some id ∧ (held = some id ∨ id ≠ "")
  | .error _, held' => held' = held

theorem after_adopt : After name held (adopt name) (Settled held) := by
  refine Cloud.after_call fun answer a b ha hanswer => ?_
  subst ha
  cases hanswer with
  | notLooked e => exact Cloud.after_done rfl
  | looked =>
      cases hfound : a name with
      | none => exact Cloud.after_done rfl
      | some id => exact Cloud.after_done ⟨rfl, .inl rfl⟩

theorem after_template (image : String) : After name held (template name image) (Settled held) := by
  refine Cloud.after_call fun answer a b ha hanswer => ?_
  subst ha
  cases hanswer with
  | made hnone hid => exact Cloud.after_done ⟨Function.update_self .., .inr hid⟩
  | notMade e =>
      simp only
      split
      · exact after_adopt
      · exact Cloud.after_done rfl

theorem after_prepare : After name held (prepare name) fun r held' =>
    Settled held (r.map fun d => d.templateId) held' := by
  refine after_network.andThen (fun e _ hsame => hsame) ?_
  rintro network _ rfl
  refine (after_subnetsOf network).andThen (fun e _ hsame => hsame) ?_
  rintro subnets _ rfl
  refine (after_imageAmong imagePatterns).andThen (fun e _ hsame => hsame) ?_
  rintro image _ rfl
  refine (after_template image).andThen (fun e _ hsame => hsame) ?_
  intro id held' hsettled
  exact Cloud.after_done hsettled

end ScalingTrials.Preparation
