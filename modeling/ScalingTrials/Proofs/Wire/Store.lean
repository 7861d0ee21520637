import Mathlib.Logic.Function.Basic
import ScalingTrials.Json.Writer
import ScalingTrials.Proofs.Task
import ScalingTrials.Proofs.Wire.Address
import ScalingTrials.Proofs.Wire.Resource

/-! # Objects that a server keeps by path

Work on one handle addresses one path only. So it leaves the objects of all other handles alone, and
nothing that it is answered depends on them. -/

namespace ScalingTrials

/-- The call is for the resource of a handle, or for none. -/
def Site.Ask.IsFor (h : Handle) : Site.Ask → Prop
  | .create h' _ | .get h' | .patch h' _ | .delete h' => h' = h
  | .describe _ => True

namespace Wire

open Resource (nameOf? scopeOf?)

variable {a b h : Handle} {k k' : String} {τ α : Type} {t : Task calls α}

/-! ### Requests and the objects that they address -/

/-- The path of the object that a request is about. What is posted to a collection is about the
object that its body names. -/
def key (r : Request) : String :=
  match r.method, r.content with
  | .post, some (_, body) => r.target ++ "/" ++ (nameOf? body).getD ""
  | _, _ => r.target

/-- A question that is about one object, or about none. -/
def Addresses (k : String) : Ask → Prop
  | .send r => key r = k
  | .describe _ => True

theorem onlyAsks_exchange {verb : Site.Verb} {method : Method} {path : String}
    {content : Option (String × Json)} {read : Response → Except Site.Cause α}
    (htarget : ∀ target, Wire.target method path = .ok target → key ⟨method, target, content⟩ = k) :
    (exchange verb h method path content read).OnlyAsks (Addresses k) := by
  unfold exchange
  cases heq : target method path with
  | error cause => trivial
  | ok target => exact ⟨htarget target heq, fun _ => trivial⟩

/-- A body is posted under the name of its handle, whatever name it had. -/
theorem key_post (a : Handle) (r : Resource) (type : String) :
    key ⟨.post, collectionPath a, some (type, (r.named a.name a.scope).toJson)⟩ = itemPath a := by
  unfold key
  dsimp only
  rw [Resource.nameOf?_named]
  rfl

theorem answer_create_of_ok {body : Json} {r : Resource} (hbody : Resource.ofJson body = .ok r) :
    answer (.create a body) = exchange .create a .post (collectionPath a)
      (some (jsonType, (r.named a.name a.scope).toJson)) resourceOf := by
  simp only [answer, hbody]

theorem answer_create_of_error {body : Json} {text : String}
    (hbody : Resource.ofJson body = .error text) :
    answer (.create a body) = .done (.error (.body a text)) := by
  simp only [answer, hbody]

/-- All calls for a handle are about the object at its path. -/
theorem onlyAsks_answer (ha : a.IsPlain) {q : Site.Ask} (hq : q.IsFor a) :
    (answer q).OnlyAsks (Addresses (itemPath a)) := by
  cases q with
  | create _ body =>
      obtain rfl := hq
      cases hbody : Resource.ofJson body with
      | error text =>
          rw [answer_create_of_error hbody]
          trivial
      | ok r =>
          rw [answer_create_of_ok hbody]
          refine onlyAsks_exchange fun target htarget => ?_
          rw [eq_of_target (fun _ hc => inPath_of_mem_collectionPath ha hc) htarget]
          exact key_post _ r jsonType
  | get | patch | delete =>
      obtain rfl := hq
      exact onlyAsks_exchange fun target htarget =>
        eq_of_target (fun _ hc => inPath_of_mem_itemPath ha hc) htarget
  | describe name => exact ⟨trivial, fun _ => trivial⟩

theorem onlyAsks_carryOut (ha : a.IsPlain) {w : Site.Work α} (hw : w.OnlyAsks (Site.Ask.IsFor a)) :
    (carryOut w).OnlyAsks (Addresses (itemPath a)) :=
  hw.via fun _ hq => onlyAsks_answer ha hq

/-! ### A server -/

/-- The objects by their paths. -/
abbrev Store := String → Option Json

/-- A server that keeps objects by their paths. What it responds and what becomes of an object is
decided by the request, the object that it is about, and whatever else the server remembers. -/
structure Server (τ : Type) where
  serve : τ → Request → Option Json → Response × Option Json × τ
  describe : τ → String → Except Cloud.Error (List Group) × τ

namespace Server

def reply (srv : Server τ) (s : τ × Store) : (q : Ask) → q.Answer × τ × Store
  | .send r =>
    let (response, object, rest) := srv.serve s.1 r (s.2 (key r))
    (response, rest, Function.update s.2 (key r) object)
  | .describe name =>
    let (groups, rest) := srv.describe s.1 name
    (groups, rest, s.2)

/-- What is posted is stored as it is. -/
def StoresPosted (srv : Server τ) : Prop :=
  ∀ s target type body object,
    (srv.serve s ⟨.post, target, some (type, body)⟩ object).2.1 = some body

variable {srv : Server τ}

/-- Another object elsewhere makes no difference to a task, and stays there. -/
theorem play_update (ht : t.OnlyAsks (Addresses k)) (hk : k' ≠ k) (s : τ) (store : Store)
    (object : Option Json) :
    t.play srv.reply (s, Function.update store k' object) =
      let p := t.play srv.reply (s, store)
      ⟨p.result, p.events, p.state.1, Function.update p.state.2 k' object⟩ := by
  induction t generalizing s store with
  | done r => rfl
  | sleep span next ih => simp [Task.play, ih ht]
  | ask q next ih =>
      obtain ⟨hq, hnext⟩ := ht
      cases q with
      | describe name => simp [Task.play, reply, ih _ (hnext _)]
      | send r =>
          obtain rfl : key r = k := hq
          have hsame : Function.update store k' object (key r) = store (key r) :=
            Function.update_of_ne hk.symm ..
          simp only [Task.play, reply, hsame, Function.update_comm hk, ih _ (hnext _)]

/-- What is elsewhere is left alone. -/
theorem play_elsewhere (ht : t.OnlyAsks (Addresses k)) (hk : k' ≠ k) (s : τ) (store : Store) :
    (t.play srv.reply (s, store)).state.2 k' = store k' := by
  have hsame := srv.play_update ht hk s store (store k')
  rw [Function.update_eq_self] at hsame
  rw [hsame]
  exact Function.update_self ..

end Server

/-! ### Creating a resource -/

variable {srv : Server τ} {s : τ} {store : Store} {body : Json} {r : Resource}

theorem carryOut_call (q : Site.Ask) : carryOut (Site.call q) = answer q :=
  Task.bind_done (answer q)

/-- What is sent is stored under the path of the handle. -/
theorem play_create_of_short (ha : a.IsPlain) (hposts : srv.StoresPosted)
    (hbody : Resource.ofJson body = .ok r)
    (hshort : (collectionPath a).utf8ByteSize < targetLimit) :
    ((carryOut (Site.call (.create a body))).play srv.reply (s, store)).state.2 =
      Function.update store (itemPath a) (some (r.named a.name a.scope).toJson) := by
  have htarget : target .post (collectionPath a) = .ok (collectionPath a) := by
    rw [target_collectionPath ha]
    exact if_neg (Nat.not_lt_of_le hshort)
  rw [carryOut_call, answer_create_of_ok hbody, exchange, htarget]
  simp only [Task.play, Server.reply, key_post]
  exact congrArg (Function.update store (itemPath a)) (hposts s ..)

/-- A path that is too long is not sent at all. -/
theorem carryOut_create_of_long (ha : a.IsPlain) (hbody : Resource.ofJson body = .ok r)
    (hlong : targetLimit ≤ (collectionPath a).utf8ByteSize) :
    carryOut (Site.call (.create a body)) =
      .done (.error (.call .create a (.unaddressable "uri too long"))) := by
  have htarget : target .post (collectionPath a) = .error (.unaddressable "uri too long") := by
    rw [target_collectionPath ha]
    exact if_pos (Nat.lt_succ_of_le hlong)
  rw [carryOut_call, answer_create_of_ok hbody, exchange, htarget]

/-! ### What work on a handle does -/

/-- Work on one handle neither changes nor learns the object of another. What it creates is stored
under its own path with its own name and namespace, and otherwise as the body has it, which is an
object with each key once. A path that is too long is not sent, nor is a body that is no
resource. -/
theorem objects_stay_apart (srv : Server τ) (ha : a.IsPlain) (s : τ) (store : Store) :
    (∀ b : Handle, b.IsPlain → b ≠ a → ∀ (α : Type) (w : Site.Work α),
      w.OnlyAsks (Site.Ask.IsFor a) → ∀ object,
      let p := (carryOut w).play srv.reply (s, store)
      let p' := (carryOut w).play srv.reply (s, Function.update store (itemPath b) object)
      p.state.2 (itemPath b) = store (itemPath b) ∧ p'.state.2 (itemPath b) = object ∧
        p'.result = p.result ∧ p'.events = p.events) ∧
    (∀ body r, Resource.ofJson body = .ok r →
      let p := (carryOut (Site.call (.create a body))).play srv.reply (s, store)
      ((collectionPath a).utf8ByteSize < targetLimit → srv.StoresPosted →
        ∃ sent, p.state.2 = Function.update store (itemPath a) (some sent) ∧
          nameOf? sent = some a.name ∧ scopeOf? sent = some a.scope ∧
          ∀ members version kind, body = .obj members → (members.map Prod.fst).Nodup →
            body.get? "apiVersion" = some (.str version) → body.get? "kind" = some (.str kind) →
            ∀ k, k ≠ "metadata" → sent.get? k = body.get? k) ∧
      (targetLimit ≤ (collectionPath a).utf8ByteSize →
        p.result = .error (.call .create a (.unaddressable "uri too long")) ∧ p.events = [])) ∧
    ∀ body text, Resource.ofJson body = .error text →
      let p := (carryOut (Site.call (.create a body))).play srv.reply (s, store)
      p.result = .error (.body a text) ∧ p.events = [] := by
  refine ⟨?_, ?_, ?_⟩
  · intro b hb hne α w hw object p p'
    have hasks := onlyAsks_carryOut ha hw
    have hpaths : itemPath b ≠ itemPath a := fun heq => hne (itemPath_injective hb ha heq)
    have hupdate : p' = ⟨p.result, p.events, p.state.1, _⟩ :=
      srv.play_update hasks hpaths s store object
    refine ⟨srv.play_elsewhere hasks hpaths s store, ?_, ?_⟩
    · rw [hupdate]
      exact Function.update_self ..
    · rw [hupdate]
      exact ⟨rfl, rfl⟩
  · intro body r hbody p
    refine ⟨fun hshort hposts => ?_, fun hlong => ?_⟩
    · refine ⟨_, play_create_of_short ha hposts hbody hshort, Resource.nameOf?_named ..,
        Resource.scopeOf?_named .., ?_⟩
      rintro members version kind rfl hnodup hversion hkind k hk
      exact Resource.get?_named_of_ofJson hbody hnodup hversion hkind hk
    · rw [show p = _ from congrArg (Task.play srv.reply · (s, store))
        (carryOut_create_of_long ha hbody hlong)]
      exact ⟨rfl, rfl⟩
  · intro body text hbody p
    have hdone : carryOut (Site.call (.create a body)) = .done (.error (.body a text)) := by
      rw [carryOut_call, answer_create_of_error hbody]
    rw [show p = _ from congrArg (Task.play srv.reply · (s, store)) hdone]
    exact ⟨rfl, rfl⟩

/-- A server that stores what it is sent and gives it back. -/
def keeper : Server Unit where
  serve _ r held :=
    let after := match r.method with
      | .get => held
      | .delete => none
      | .post | .patch => r.content.map Prod.snd
    (match after with
      | some object => .answered 200 object.compact
      | none => .answered 404 "", after, ())
  describe _ _ := (.ok [], ())

theorem storesPosted_keeper : keeper.StoresPosted := fun _ _ _ _ _ => rfl

def webGroup : Handle := .ofScalingGroup "web"
def webPod : Handle := ⟨"", "v1", "pods", "web", "default"⟩

/-- A body that gives another name. -/
def misnamed : Json :=
  .obj [("kind", .str "Pod"), ("metadata", .obj [("name", .str "db")]), ("apiVersion", .str "v1"),
    ("spec", .int 1)]

/-- A store with a pod in it. -/
def podStore : Store := Function.update (fun _ => none) (itemPath webPod) (some .null)

theorem ofJson_misnamed : ∃ r, Resource.ofJson misnamed = .ok r := ⟨_, rfl⟩

/-- A pod with the name of a scaling group is not touched when the group is made. -/
theorem objects_stay_apart_keeper :
    let p := (carryOut (Site.call (.create webGroup misnamed))).play keeper.reply ((), podStore)
    p.state.2 (itemPath webPod) = some .null ∧
      ∃ sent, p.state.2 (itemPath webGroup) = some sent ∧ nameOf? sent = some "web" ∧
        scopeOf? sent = some "default" ∧ sent.get? "spec" = some (.int 1) := by
  intro p
  have hgroup : webGroup.IsPlain := by decide +kernel
  have hpod : webPod.IsPlain := by decide +kernel
  obtain ⟨hapart, hcreate, -⟩ := objects_stay_apart keeper hgroup () podStore
  obtain ⟨hkept, -⟩ := hapart webPod hpod (by decide) _ (Site.call (.create webGroup misnamed))
    ⟨rfl, fun _ => trivial⟩ none
  obtain ⟨r, hbody⟩ := ofJson_misnamed
  have hshort : (collectionPath webGroup).utf8ByteSize < targetLimit := by decide +kernel
  obtain ⟨sent, hstored, hname, hscope, hsame⟩ := (hcreate misnamed r hbody).1 hshort
    storesPosted_keeper
  refine ⟨hkept.trans (Function.update_self ..), sent, ?_, hname, hscope, ?_⟩
  · rw [show p.state.2 = _ from hstored]
    exact Function.update_self ..
  · exact hsame _ "v1" "Pod" rfl (by decide) rfl rfl "spec" (by decide)

/-- A pod in a namespace whose name has so many letters. -/
def distant (n : Nat) : Handle := ⟨"", "v1", "pods", "p", String.ofList (List.replicate n 'a')⟩

theorem isPlain_distant (n : Nat) : (distant n).IsPlain := by
  have hfixed : ∀ part ∈ ["", "v1", "pods", "p"], part.toList.all Handle.isPlain = true := by decide
  intro part hpart
  simp only [distant, Handle.parts, List.mem_cons, List.not_mem_nil, or_false] at hpart
  rcases hpart with rfl | rfl | rfl | rfl | rfl
  · exact hfixed _ (by simp)
  · exact hfixed _ (by simp)
  · exact hfixed _ (by simp)
  · exact hfixed _ (by simp)
  · rw [String.toList_ofList, List.all_eq_true]
    intro c hc
    rw [List.eq_of_mem_replicate hc]
    rfl

theorem utf8ByteSize_replicate (n : Nat) :
    (String.ofList (List.replicate n 'a')).utf8ByteSize = n := by
  induction n with
  | zero => rfl
  | succ n ih =>
      rw [List.replicate_succ', String.ofList_append, String.utf8ByteSize_append, ih]
      rfl

theorem le_utf8ByteSize_distant (n : Nat) : n ≤ (collectionPath (distant n)).utf8ByteSize := by
  simp only [collectionPath, distant, String.utf8ByteSize_append, utf8ByteSize_replicate]
  omega

theorem scope_distant_ne {n : Nat} (hn : targetLimit ≤ n) : (distant n).scope ≠ "" := by
  intro hempty
  have hsize : (distant n).scope.utf8ByteSize = n := utf8ByteSize_replicate n
  rw [hempty, String.utf8ByteSize_empty] at hsize
  rw [← hsize] at hn
  cases hn

theorem play_create_distant {n : Nat} (hn : targetLimit ≤ n) :
    (carryOut (Site.call (.create (distant n) (.obj [])))).play keeper.reply ((), fun _ => none) =
      ⟨.error (.call .create (distant n) (.unaddressable "uri too long")), [],
        ((), fun _ => none)⟩ := by
  have hbody : Resource.ofJson (.obj []) = .ok ⟨none, [], []⟩ := rfl
  rw [carryOut_create_of_long (isPlain_distant n) hbody
    (Nat.le_trans hn (le_utf8ByteSize_distant n))]
  rfl

/-- A pod that is made there is not stored: its path is too long. -/
theorem create_distant_stores_nothing :
    (distant 65535).IsPlain ∧ (distant 65535).version ≠ "" ∧ (distant 65535).plural ≠ "" ∧
      (distant 65535).name ≠ "" ∧ (distant 65535).scope ≠ "" ∧
      Resource.ofJson (.obj []) = .ok ⟨none, [], []⟩ ∧ keeper.StoresPosted ∧
      ((carryOut (Site.call (.create (distant 65535) (.obj [])))).play keeper.reply
        ((), fun _ => none)).state.2 (itemPath (distant 65535)) = none := by
  have hlong : targetLimit ≤ 65535 := by decide
  have hwords : "v1" ≠ "" ∧ "pods" ≠ "" ∧ "p" ≠ "" := by decide
  refine ⟨isPlain_distant 65535, hwords.1, hwords.2.1, hwords.2.2, scope_distant_ne hlong, rfl,
    storesPosted_keeper, ?_⟩
  rw [play_create_distant hlong]

end Wire

end ScalingTrials
