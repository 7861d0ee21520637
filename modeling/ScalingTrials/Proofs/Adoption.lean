import ScalingTrials.Proofs.Account
import ScalingTrials.Proofs.Preparation

/-! # Preparing an account again and again

An account in which names are unique makes a template only under a free name, and tells that a
name is taken only where it is. However often preparing is run there, and whatever fails on the
way, there is one template in the end, and every run that succeeds tells its id. -/

namespace ScalingTrials

namespace Task

variable {I : Interface} {α σ : Type}

/-- The state after a task was played so many times, one after the other. -/
def replayed (t : Task I α) (reply : σ → (q : I.Ask) → I.Answer q × σ) (s : σ) : Nat → σ
  | 0 => s
  | n + 1 => (t.play reply (replayed t reply s n)).state

end Task

namespace Cloud

/-! ### An account with unique names -/

/-- An answer of an account in which names are unique, and the account after it. Any call may
fail without an effect, with a code that says nothing of a name. -/
inductive Serves : Account → (q : Ask) → Except Error q.Result → Account → Prop where
  | networks (a : Account) (answer : Except Error (List String)) :
      Serves a .defaultNetworks answer a
  | subnets (a : Account) (network : String) (answer : Except Error (List Subnet)) :
      Serves a (.subnets network) answer a
  | images (a : Account) (owner pattern : String) (answer : Except Error (List Image)) :
      Serves a (.images owner pattern) answer a
  | made {a : Account} {request : TemplateRequest} {id : String} : a request.name = none →
      (∀ name, a name ≠ some id) →
      Serves a (.createTemplate request) (.ok id) (Function.update a request.name (some id))
  | taken {a : Account} {request : TemplateRequest} {e : Error} : (a request.name).isSome = true →
      e.code = some nameTakenCode → Serves a (.createTemplate request) (.error e) a
  | looked (a : Account) (name : String) : Serves a (.templateId name) (.ok (a name)) a
  | deleted (a : Account) (id : String) : Serves a (.deleteTemplate id) (.ok ()) (a.without id)
  | failed (a : Account) (q : Ask) {e : Error} : e.code ≠ some nameTakenCode →
      Serves a q (.error e) a

/-- The account serves every call of a list of events in turn. -/
inductive ServesAll : Account → List (Event calls) → Account → Prop where
  | nil (a : Account) : ServesAll a [] a
  | slept (span : Span) {a b : Account} {es : List (Event calls)} :
      ServesAll a es b → ServesAll a (.slept span :: es) b
  | asked {a b c : Account} {q : Ask} {answer : Except Error q.Result} {es : List (Event calls)} :
      Serves a q answer b → ServesAll b es c → ServesAll a (.asked q answer :: es) c

variable {a b c : Account} {es fs : List (Event calls)} {σ α : Type}

theorem servesAll_asked {q : Ask} {answer : Except Error q.Result}
    (h : ServesAll a (.asked q answer :: es) c) :
    ∃ b, Serves a q answer b ∧ ServesAll b es c := by
  cases h with
  | asked hserves hrest => exact ⟨_, hserves, hrest⟩

theorem serves_of_singleton {q : Ask} {answer : Except Error q.Result}
    (h : ServesAll a [.asked q answer] b) : Serves a q answer b := by
  obtain ⟨b', hserves, hrest⟩ := servesAll_asked h
  cases hrest
  exact hserves

theorem servesAll_append (h : ServesAll a (es ++ fs) c) :
    ∃ b, ServesAll a es b ∧ ServesAll b fs c := by
  induction es generalizing a with
  | nil => exact ⟨a, .nil a, h⟩
  | cons e es ih =>
      cases h with
      | slept span hrest =>
          obtain ⟨b, hfirst, hsecond⟩ := ih hrest
          exact ⟨b, .slept span hfirst, hsecond⟩
      | asked hserves hrest =>
          obtain ⟨b, hfirst, hsecond⟩ := ih hrest
          exact ⟨b, .asked hserves hfirst, hsecond⟩

/-- A service that keeps such an account serves all calls of a task. -/
theorem servesAll_play {reply : σ → (q : Ask) → Except Error q.Result × σ}
    {account : σ → Account}
    (hserves : ∀ s q, Serves (account s) q (reply s q).1 (account (reply s q).2))
    (t : Task calls α) (s : σ) :
    ServesAll (account s) (t.play (I := calls) reply s).events
      (account (t.play (I := calls) reply s).state) := by
  induction t generalizing s with
  | done r => exact .nil _
  | sleep span next ih => exact .slept span (ih s)
  | ask q next ih => exact .asked (hserves s q) (ih _ _)

theorem serves_refusal {request : TemplateRequest} {e : Error}
    (h : Serves a (.createTemplate request) (.error e) b) :
    b = a ∧ (e.code = some nameTakenCode → (a request.name).isSome = true) := by
  cases h with
  | taken hheld _ => exact ⟨rfl, fun _ => hheld⟩
  | failed _ hcode => exact ⟨rfl, fun htaken => absurd htaken hcode⟩

theorem serves_templateId {name : String} {answer : Except Error (Option String)}
    (h : Serves a (.templateId name) answer b) :
    b = a ∧ ∀ found, answer = .ok found → a name = found := by
  cases h with
  | looked => exact ⟨rfl, fun _ heq => Except.ok.inj heq⟩
  | failed => exact ⟨rfl, fun _ heq => nomatch heq⟩

/-- Calls that make and delete nothing. -/
def Looks : Event calls → Prop
  | .asked (.createTemplate _) _ | .asked (.deleteTemplate _) _ => False
  | _ => True

theorem eq_of_looks (hlooks : ∀ e ∈ es, Looks e) (h : ServesAll a es b) : b = a := by
  induction h with
  | nil a => rfl
  | slept span _ ih => exact ih fun e he => hlooks e (List.mem_cons_of_mem _ he)
  | asked hserves _ ih =>
      rw [ih fun e he => hlooks e (List.mem_cons_of_mem _ he)]
      have hlook := hlooks _ List.mem_cons_self
      cases hserves with
      | networks | subnets | images | looked | failed => rfl
      | made | taken | deleted => exact hlook.elim

end Cloud

namespace Preparation

open Cloud (Account Looks Serves ServesAll calls eq_of_looks servesAll_append servesAll_asked
  servesAll_play serves_of_singleton serves_refusal serves_templateId)

variable {name image : String} {a b : Account} {es : List (Event calls)} {e : Failure}

/-! ### What one run does to the account -/

theorem ImageFound.looks {patterns : List String} {image : Cloud.Image}
    (h : ImageFound patterns image es) : ∀ e ∈ es, Looks e := by
  induction h with
  | here _ => exact List.forall_mem_singleton.mpr trivial
  | later _ ih => exact List.forall_mem_cons.mpr ⟨trivial, ih⟩

theorem ImageMissed.looks {patterns : List String} (h : ImageMissed patterns e es) :
    ∀ e ∈ es, Looks e := by
  induction h with
  | failed _ => exact List.forall_mem_singleton.mpr trivial
  | none => exact List.forall_mem_nil _
  | later _ ih => exact List.forall_mem_cons.mpr ⟨trivial, ih⟩

theorem Found.looks {subnets : List Cloud.Subnet} {image : Cloud.Image}
    (h : Found subnets image es) : ∀ e ∈ es, Looks e := by
  cases h with
  | intro _ himage => simpa [Looks] using himage.looks

theorem Missed.looks (h : Missed e es) : ∀ e ∈ es, Looks e := by
  cases h with
  | image _ himage => simpa [Looks] using himage.looks
  | networks | noNetwork | subnets | noSubnets => simp [Looks]

/-- The ids of the templates that were made, in order. -/
def madeIds (es : List (Event calls)) : List String :=
  es.filterMap fun
    | .asked (.createTemplate _) (.ok id) => some id
    | _ => none

theorem madeIds_append (es es' : List (Event calls)) :
    madeIds (es ++ es') = madeIds es ++ madeIds es' :=
  List.filterMap_append

/-- It came out that the name has a template: one was made, or refused because there is one. -/
def Decides : Event calls → Prop
  | .asked (.createTemplate _) (.ok _) => True
  | .asked (.createTemplate _) (.error e) => e.code = some Cloud.nameTakenCode
  | _ => False

def Decided (es : List (Event calls)) : Prop := ∃ e ∈ es, Decides e

theorem decided_append {es es' : List (Event calls)} :
    Decided (es ++ es') ↔ Decided es ∨ Decided es' := by
  simp [Decided, or_and_right, exists_or]

theorem undecided_of_looks (h : ∀ e ∈ es, Looks e) : ¬Decided es ∧ madeIds es = [] := by
  refine ⟨?_, List.filterMap_eq_nil_iff.mpr fun e he => ?_⟩
  · rintro ⟨e, he, hdecides⟩
    have hlook := h e he
    match e with
    | .asked (.createTemplate _) _ => exact hlook
  · have hlook := h e he
    match e with
    | .slept _ | .asked .defaultNetworks _ | .asked (.subnets _) _ | .asked (.images _ _) _
    | .asked (.templateId _) _ => rfl
    | .asked (.createTemplate _) _ | .asked (.deleteTemplate _) _ => exact hlook.elim

/-- The ways in which a run can leave an account, by what it told and which templates it made. -/
inductive Left (name : String) (a : Account) :
    Except Failure String → List (Event calls) → Account → Prop where
  | undecided {e : Failure} {es : List (Event calls)} : ¬Decided es → madeIds es = [] →
      Left name a (.error e) es a
  | made {id : String} {es : List (Event calls)} : a name = none → madeIds es = [id] →
      Left name a (.ok id) es (Function.update a name (some id))
  | adopted {id : String} {es : List (Event calls)} : a name = some id → madeIds es = [] →
      Left name a (.ok id) es a
  | notAdopted {e : Failure} {es : List (Event calls)} : (a name).isSome = true →
      madeIds es = [] → Left name a (.error e) es a

theorem left_of_supplied {r : Except Failure String} (hsupplied : Supplied name image r es)
    (h : ServesAll a es b) : Left name a r es b := by
  cases hsupplied with
  | made id =>
      cases serves_of_singleton h with
      | made hfree _ => exact .made hfree rfl
  | refused hcode =>
      obtain ⟨rfl, -⟩ := serves_refusal (serves_of_singleton h)
      exact .undecided (by simp [Decided, Decides, creation, hcode]) rfl
  | adopted id hcode =>
      obtain ⟨b', hcreate, hlook⟩ := servesAll_asked h
      obtain ⟨rfl, -⟩ := serves_refusal hcreate
      obtain ⟨rfl, hheld⟩ := serves_templateId (serves_of_singleton hlook)
      exact .adopted (hheld _ rfl) rfl
  | notAdopted cause hcode | missing hcode =>
      obtain ⟨b', hcreate, hlook⟩ := servesAll_asked h
      obtain ⟨rfl, hheld⟩ := serves_refusal hcreate
      obtain ⟨rfl, -⟩ := serves_templateId (serves_of_singleton hlook)
      exact .notAdopted (hheld hcode) rfl

/-- Discovery only looks, so that it makes no difference to how a run leaves the account. -/
theorem Left.append {r : Except Failure String} {first : List (Event calls)}
    (hfirst : ∀ e ∈ first, Looks e) (h : Left name a r es b) : Left name a r (first ++ es) b := by
  obtain ⟨hundecided, hnone⟩ := undecided_of_looks hfirst
  have hmade : madeIds (first ++ es) = madeIds es := by
    rw [madeIds_append, hnone, List.nil_append]
  cases h with
  | undecided hes hids =>
      refine .undecided ?_ (hmade.trans hids)
      rw [decided_append, not_or]
      exact ⟨hundecided, hes⟩
  | made hfree hids => exact .made hfree (hmade.trans hids)
  | adopted hheld hids => exact .adopted hheld (hmade.trans hids)
  | notAdopted hheld hids => exact .notAdopted hheld (hmade.trans hids)

theorem left_of_found {r : Except Failure String} {subnets : List Cloud.Subnet}
    {image : Cloud.Image} {first second : List (Event calls)} (hfound : Found subnets image first)
    (hsupplied : Supplied name image.id r second) (h : ServesAll a (first ++ second) b) :
    Left name a r (first ++ second) b := by
  obtain ⟨a', hlooked, hserved⟩ := servesAll_append h
  obtain rfl := eq_of_looks hfound.looks hlooked
  exact (left_of_supplied hsupplied hserved).append hfound.looks

theorem left_of_course {r : Except Failure Descriptor} (hc : (prepare name).Course es r)
    (h : ServesAll a es b) : Left name a (r.map fun d => d.templateId) es b := by
  have hends := ends_prepare name es r hc
  cases r with
  | ok d =>
      obtain ⟨subnets, image, first, second, id, hfound, hsupplied, rfl, rfl⟩ := hends
      exact left_of_found hfound hsupplied h
  | error e =>
      rcases hends with hmissed | ⟨subnets, image, first, second, hfound, hsupplied, rfl⟩
      · obtain rfl := eq_of_looks hmissed.looks h
        obtain ⟨hundecided, hnone⟩ := undecided_of_looks hmissed.looks
        exact .undecided hundecided hnone
      · exact left_of_found hfound hsupplied h

/-! ### What each way of leaving an account comes to -/

variable {r : Except Failure String} {id : String}

/-- Where the name is held, nothing changes and nothing is made. -/
theorem Left.of_held (h : Left name a r es b) (hheld : a name = some id) :
    b = a ∧ madeIds es = [] := by
  cases h with
  | made hfree _ => simp [hfree] at hheld
  | undecided _ hids | adopted _ hids | notAdopted _ hids => exact ⟨rfl, hids⟩

/-- A run that succeeds tells who holds the name after it. -/
theorem Left.tells (h : Left name a (.ok id) es b) : b name = some id := by
  cases h with
  | made _ _ => exact Function.update_self ..
  | adopted hheld _ => exact hheld

theorem Left.held_of_decided (h : Left name a r es b) (hdecided : Decided es) :
    (b name).isSome = true := by
  cases h with
  | undecided hes _ => exact absurd hdecided hes
  | made _ _ => simp
  | adopted hheld _ => simp [hheld]
  | notAdopted hheld _ => exact hheld

theorem Left.others (h : Left name a r es b) {other : String} (hother : other ≠ name) :
    b other = a other := by
  cases h with
  | made _ _ => exact Function.update_of_ne hother ..
  | undecided | adopted | notAdopted => rfl

/-- What a run makes takes the name, which was free. -/
theorem Left.toList (h : Left name a r es b) :
    (b name).toList = (a name).toList ++ madeIds es := by
  cases h with
  | made hfree hids => simp [hfree, hids]
  | undecided _ hids | adopted _ hids | notAdopted _ hids => rw [hids, List.append_nil]

/-! ### Run after run -/

section Runs

variable {σ : Type}

/-- The account before a run; the first run is number zero. -/
def accountBefore (name : String) (reply : σ → (q : Cloud.Ask) → Except Cloud.Error q.Result × σ)
    (account : σ → Account) (s : σ) (n : Nat) : Account :=
  account ((prepare name).replayed (I := calls) reply s n)

/-- The run of a number. -/
def nthRun (name : String) (reply : σ → (q : Cloud.Ask) → Except Cloud.Error q.Result × σ) (s : σ)
    (n : Nat) : Task.Played calls σ (Except Failure Descriptor) :=
  (prepare name).play reply ((prepare name).replayed (I := calls) reply s n)

/-- The ids of the templates that the runs before one made. -/
def madeBefore (name : String) (reply : σ → (q : Cloud.Ask) → Except Cloud.Error q.Result × σ)
    (s : σ) (n : Nat) : List String :=
  (List.range n).flatMap fun i => madeIds (nthRun name reply s i).events

variable {reply : σ → (q : Cloud.Ask) → Except Cloud.Error q.Result × σ} {account : σ → Account}
  {s : σ} {k n : Nat} {d : Descriptor}
  (hserves : ∀ s q, Serves (account s) q (reply s q).1 (account (reply s q).2))

include hserves

theorem left_nthRun (name : String) (s : σ) (n : Nat) :
    Left name (accountBefore name reply account s n)
      ((nthRun name reply s n).result.map fun d => d.templateId) (nthRun name reply s n).events
      (accountBefore name reply account s (n + 1)) :=
  left_of_course (Task.play_course _ _ _) (servesAll_play hserves _ _)

/-- Once the name is held, the account stays as it is. -/
theorem accountBefore_eq_of_held (hkn : k ≤ n)
    (hheld : accountBefore name reply account s k name = some id) :
    accountBefore name reply account s n = accountBefore name reply account s k := by
  induction hkn with
  | refl => rfl
  | @step n _ ih =>
      have hleft := left_nthRun hserves name s n
      exact (hleft.of_held (ih ▸ hheld)).1.trans ih

theorem held_of_nthRun_ok (hok : (nthRun name reply s n).result = .ok d) :
    accountBefore name reply account s (n + 1) name = some d.templateId := by
  have hleft := left_nthRun hserves name s n
  rw [hok] at hleft
  exact hleft.tells

/-- A run finds the account as an earlier one that succeeded left it. -/
theorem templateId_eq_of_le {i j : Nat} {d' : Descriptor} (hij : i ≤ j)
    (hi : (nthRun name reply s i).result = .ok d) (hj : (nthRun name reply s j).result = .ok d') :
    d.templateId = d'.templateId := by
  have hheld := held_of_nthRun_ok hserves hi
  have hheld' := held_of_nthRun_ok hserves hj
  rw [accountBefore_eq_of_held hserves (Nat.succ_le_succ hij) hheld, hheld] at hheld'
  exact Option.some.inj hheld'

theorem toList_accountBefore (n : Nat) :
    (accountBefore name reply account s n name).toList =
      (account s name).toList ++ madeBefore name reply s n := by
  induction n with
  | zero => exact (List.append_nil _).symm
  | succ n ih =>
      rw [(left_nthRun hserves name s n).toList, ih, List.append_assoc, madeBefore,
        madeBefore, List.range_succ, List.flatMap_append, List.flatMap_singleton]

theorem accountBefore_others {other : String} (hother : other ≠ name) (n : Nat) :
    accountBefore name reply account s n other = account s other := by
  induction n with
  | zero => rfl
  | succ n ih => exact ((left_nthRun hserves name s n).others hother).trans ih

/-- All runs that succeed tell the template that holds the name: the one that was there, or the
only one that any of them made. Once this is decided, the account stays as it is, and templates of
other names are never touched. -/
theorem prepared_again_adopts (name : String) (s : σ) :
    (∀ i j d d', (nthRun name reply s i).result = .ok d → (nthRun name reply s j).result = .ok d' →
      d.templateId = d'.templateId) ∧
    (∀ i d id, account s name = some id → (nthRun name reply s i).result = .ok d →
      d.templateId = id) ∧
    (∀ k n, Decided (nthRun name reply s k).events → k < n →
      accountBefore name reply account s n = accountBefore name reply account s (k + 1)) ∧
    (∀ n, (accountBefore name reply account s n name).toList =
      (account s name).toList ++ madeBefore name reply s n) ∧
    ∀ n other, other ≠ name → accountBefore name reply account s n other = account s other := by
  refine ⟨?_, ?_, ?_, toList_accountBefore hserves, fun n other hother =>
    accountBefore_others hserves hother n⟩
  · intro i j d d' hi hj
    rcases Nat.le_total i j with hij | hji
    · exact templateId_eq_of_le hserves hij hi hj
    · exact (templateId_eq_of_le hserves hji hj hi).symm
  · intro i d id hid hok
    have hheld := held_of_nthRun_ok hserves hok
    rw [accountBefore_eq_of_held (k := 0) hserves (Nat.zero_le _) hid] at hheld
    exact Option.some.inj (hheld.symm.trans hid)
  · intro k n hdecided hkn
    have hleft := left_nthRun hserves name s k
    obtain ⟨id, hid⟩ := Option.isSome_iff_exists.mp (hleft.held_of_decided hdecided)
    exact accountBefore_eq_of_held hserves hkn hid

end Runs

/-- A service whose account has no template but one of a certain name. -/
def steady (held : Option String) : (q : Cloud.Ask) → Except Cloud.Error q.Result × Option String
  | .defaultNetworks => (.ok ["vpc-1"], held)
  | .subnets _ => (.ok [⟨"subnet-1", none⟩], held)
  | .images _ _ => (.ok [⟨"ami-1", none⟩], held)
  | .createTemplate request =>
    if request.name = "web" then
      match held with
      | none => (.ok "lt-1", some "lt-1")
      | some id => (.error ⟨"CreateLaunchTemplate", some Cloud.nameTakenCode, ""⟩, some id)
    else (.error ⟨"CreateLaunchTemplate", none, ""⟩, held)
  | .templateId name => (.ok (if name = "web" then held else none), held)
  | .deleteTemplate _ => (.error ⟨"DeleteLaunchTemplate", none, ""⟩, held)

/-- The same service, when some of its calls fail, by their number. -/
def flaky (fails : Nat → Bool) (s : Nat × Option String) (q : Cloud.Ask) :
    Except Cloud.Error q.Result × Nat × Option String :=
  if fails s.1 then (.error ⟨"", some "Throttling", ""⟩, s.1 + 1, s.2)
  else ((steady s.2 q).1, s.1 + 1, (steady s.2 q).2)

def onlyWeb (held : Option String) : Account := fun name => if name = "web" then held else none

theorem serves_steady (held : Option String) (q : Cloud.Ask) :
    Serves (onlyWeb held) q (steady held q).1 (onlyWeb (steady held q).2) := by
  cases q with
  | defaultNetworks => exact .networks _ _
  | subnets network => exact .subnets _ network _
  | images owner pattern => exact .images _ owner pattern _
  | templateId name => exact .looked _ name
  | deleteTemplate id => exact .failed _ _ (by decide)
  | createTemplate request =>
      by_cases hname : request.name = "web"
      · cases held with
        | none =>
            have hafter : onlyWeb (some "lt-1") =
                Function.update (onlyWeb none) request.name (some "lt-1") := by
              funext name
              simp [onlyWeb, Function.update_apply, hname]
            simp only [steady, hname, if_true, hafter]
            exact hname ▸ .made (by simp [onlyWeb]) (by simp [onlyWeb])
        | some id =>
            simp only [steady, hname, if_true]
            exact .taken (by simp [onlyWeb, hname]) (by decide)
      · simp only [steady, hname, if_false]
        exact .failed _ _ (by decide)

theorem serves_flaky (fails : Nat → Bool) (s : Nat × Option String) (q : Cloud.Ask) :
    Serves (onlyWeb s.2) q (flaky fails s q).1 (onlyWeb (flaky fails s q).2.2) := by
  unfold flaky
  split
  · exact .failed _ q (by decide)
  · exact serves_steady s.2 q

/-- The first of four runs gets no subnets, the second one makes the template, and the third one
cannot look it up. -/
def mended : Nat → Bool := fun n => n = 1 ∨ n = 10

theorem replayed_mended :
    (prepare "web").replayed (I := calls) (flaky mended) (0, none) 1 = (2, none) ∧
      (prepare "web").replayed (I := calls) (flaky mended) (0, none) 2 = (6, some "lt-1") ∧
      (prepare "web").replayed (I := calls) (flaky mended) (0, none) 3 = (11, some "lt-1") := by
  have hfirst : (prepare "web").replayed (I := calls) (flaky mended) (0, none) 1 = (2, none) := rfl
  have hsecond : (prepare "web").replayed (I := calls) (flaky mended) (0, none) 2 =
      (6, some "lt-1") := by
    rw [Task.replayed, hfirst]
    rfl
  refine ⟨hfirst, hsecond, ?_⟩
  rw [Task.replayed, hsecond]
  rfl

theorem prepared_again_adopts_mended :
    (∃ e, (nthRun "web" (flaky mended) (0, none) 2).result = .error e) ∧
      (∃ d d', (nthRun "web" (flaky mended) (0, none) 1).result = .ok d ∧
        (nthRun "web" (flaky mended) (0, none) 3).result = .ok d' ∧
        d.templateId = d'.templateId) ∧
      ∀ n, 1 < n → accountBefore "web" (flaky mended) (fun s => onlyWeb s.2) (0, none) n =
        accountBefore "web" (flaky mended) (fun s => onlyWeb s.2) (0, none) 2 := by
  obtain ⟨hfirst, hsecond, hthird⟩ := replayed_mended
  obtain ⟨hsame, -, hstays, -, -⟩ := prepared_again_adopts (serves_flaky mended) "web" (0, none)
  have hmakes : ∃ d, (nthRun "web" (flaky mended) (0, none) 1).result = .ok d ∧
      creation "web" "ami-1" (.ok "lt-1") ∈ (nthRun "web" (flaky mended) (0, none) 1).events := by
    rw [nthRun, hfirst]
    exact ⟨_, rfl, List.Mem.tail _ (.tail _ (.tail _ (.head _)))⟩
  have hfails : ∃ e, (nthRun "web" (flaky mended) (0, none) 2).result = .error e := by
    rw [nthRun, hsecond]
    exact ⟨_, rfl⟩
  have hadopts : ∃ d, (nthRun "web" (flaky mended) (0, none) 3).result = .ok d := by
    rw [nthRun, hthird]
    exact ⟨_, rfl⟩
  obtain ⟨d, hd, hmem⟩ := hmakes
  obtain ⟨d', hd'⟩ := hadopts
  exact ⟨hfails, ⟨d, d', hd, hd', hsame 1 3 d d' hd hd'⟩,
    fun n hn => hstays 1 n ⟨_, hmem, trivial⟩ hn⟩

end Preparation

end ScalingTrials
