import ScalingTrials.Preparation
import ScalingTrials.Proofs.Task

/-! # What preparing an account does

Discovery only looks: network, subnets, images, in this order and up to the first answer
that is missing. The template is asked for once, when all of them are there, and the files
change only to record it. -/

namespace ScalingTrials.Preparation

open Cloud (calls)

variable {name dir image : String} {fs fs' : Files} {e : Failure} {es : List (Event calls)}

/-! ### Discovery -/

/-- Images were looked up under one name after another, up to the first that any image has. -/
inductive ImageFound : List String → Cloud.Image → List (Event calls) → Prop where
  | here {pattern : String} {rest : List String} {found : List Cloud.Image} {image : Cloud.Image} :
      Cloud.Image.newest? found = some image →
      ImageFound (pattern :: rest) image [.asked (.images imageOwner pattern) (.ok found)]
  | later {pattern : String} {rest : List String} {image : Cloud.Image} {es : List (Event calls)} :
      ImageFound rest image es →
      ImageFound (pattern :: rest) image (.asked (.images imageOwner pattern) (.ok []) :: es)

/-- Images were looked up in vain: the last lookup failed, or there are no more names. -/
inductive ImageMissed : List String → Failure → List (Event calls) → Prop where
  | failed {pattern : String} {rest : List String} (e : Cloud.Error) :
      ImageMissed (pattern :: rest) (.images pattern e)
        [.asked (.images imageOwner pattern) (.error e)]
  | none : ImageMissed [] (.noImage imagePatterns) []
  | later {pattern : String} {rest : List String} {e : Failure} {es : List (Event calls)} :
      ImageMissed rest e es →
      ImageMissed (pattern :: rest) e (.asked (.images imageOwner pattern) (.ok []) :: es)

/-- Discovery went through, and every answer had something in it. -/
inductive Found : List Cloud.Subnet → Cloud.Image → List (Event calls) → Prop where
  | intro {network : String} {others : List String} {subnets : List Cloud.Subnet}
      {image : Cloud.Image} {es : List (Event calls)} :
      subnets ≠ [] → ImageFound imagePatterns image es →
      Found subnets image (.asked .defaultNetworks (.ok (network :: others)) ::
        .asked (.subnets network) (.ok subnets) :: es)

/-- Discovery ended with the first call that failed or that brought nothing. -/
inductive Missed : Failure → List (Event calls) → Prop where
  | networks (e : Cloud.Error) : Missed (.networks e) [.asked .defaultNetworks (.error e)]
  | noNetwork : Missed .noNetwork [.asked .defaultNetworks (.ok [])]
  | subnets (network : String) (others : List String) (e : Cloud.Error) :
      Missed (.subnets network e) [.asked .defaultNetworks (.ok (network :: others)),
        .asked (.subnets network) (.error e)]
  | noSubnets (network : String) (others : List String) :
      Missed (.noSubnets network) [.asked .defaultNetworks (.ok (network :: others)),
        .asked (.subnets network) (.ok [])]
  | image {network : String} {others : List String} {subnets : List Cloud.Subnet} {e : Failure}
      {es : List (Event calls)} :
      subnets ≠ [] → ImageMissed imagePatterns e es →
      Missed e (.asked .defaultNetworks (.ok (network :: others)) ::
        .asked (.subnets network) (.ok subnets) :: es)

theorem ends_network : Task.Ends network
    (fun network es => ∃ others, es = [.asked .defaultNetworks (.ok (network :: others))])
    Missed := by
  intro es r hc
  obtain ⟨answer, rest, rfl, hrest⟩ := Task.course_ask_iff.mp hc
  rcases answer with e | _ | ⟨network, others⟩
  · obtain ⟨rfl, rfl⟩ := Task.course_done_iff.mp hrest
    exact .networks e
  · obtain ⟨rfl, rfl⟩ := Task.course_done_iff.mp hrest
    exact .noNetwork
  · obtain ⟨rfl, rfl⟩ := Task.course_done_iff.mp hrest
    exact ⟨others, rfl⟩

theorem ends_subnetsOf (network : String) (others : List String) : Task.Ends (subnetsOf network)
    (fun subnets es => subnets ≠ [] ∧ es = [.asked (.subnets network) (.ok subnets)])
    (fun e es => Missed e (.asked .defaultNetworks (.ok (network :: others)) :: es)) := by
  intro es r hc
  obtain ⟨answer, rest, rfl, hrest⟩ := Task.course_ask_iff.mp hc
  rcases answer with e | _ | ⟨subnet, subnets⟩
  · obtain ⟨rfl, rfl⟩ := Task.course_done_iff.mp hrest
    exact .subnets network others e
  · obtain ⟨rfl, rfl⟩ := Task.course_done_iff.mp hrest
    exact .noSubnets network others
  · obtain ⟨rfl, rfl⟩ := Task.course_done_iff.mp hrest
    exact ⟨List.cons_ne_nil _ _, rfl⟩

theorem eq_nil_of_newest?_eq_none {found : List Cloud.Image}
    (h : Cloud.Image.newest? found = none) : found = [] := by
  cases found with
  | nil => rfl
  | cons image rest => simp [Cloud.Image.newest?] at h

theorem ends_imageAmong (patterns : List String) : Task.Ends (imageAmong patterns)
    (fun id es => ∃ image, ImageFound patterns image es ∧ id = image.id)
    (ImageMissed patterns) := by
  induction patterns with
  | nil =>
      intro es r hc
      obtain ⟨rfl, rfl⟩ := Task.course_done_iff.mp hc
      exact .none
  | cons pattern patterns ih =>
      intro es r hc
      obtain ⟨answer, rest, rfl, hrest⟩ := Task.course_ask_iff.mp hc
      cases answer with
      | error e =>
          obtain ⟨rfl, rfl⟩ := Task.course_done_iff.mp hrest
          exact .failed e
      | ok found =>
          cases hnewest : Cloud.Image.newest? found with
          | some image =>
              simp only [Task.done_bind, hnewest] at hrest
              obtain ⟨rfl, rfl⟩ := Task.course_done_iff.mp hrest
              exact ⟨image, .here hnewest, rfl⟩
          | none =>
              obtain rfl := eq_nil_of_newest?_eq_none hnewest
              have hends := ih rest r hrest
              cases r with
              | error e => exact .later hends
              | ok id =>
                  obtain ⟨image, hfound, hid⟩ := hends
                  exact ⟨image, .later hfound, hid⟩

/-! ### The template -/

/-- What is asked for: a template of a name that starts small instances of an image, and how the
instances and the template itself are tagged. -/
structure Requests (name image : String) (request : Cloud.TemplateRequest) : Prop where
  name_eq : request.name = name
  image_eq : request.image = image
  instanceType_eq : request.instanceType = "t3.micro"
  instanceTags_eq : request.instanceTags = [("Name", "ack-test-asg-instance"), ("ManagedBy", "ACK")]
  templateTags_eq : request.templateTags = [("Name", name), ("ManagedBy", "ACK")]

theorem requests_make (name image : String) :
    Requests name image (.make name image instanceName) := ⟨rfl, rfl, rfl, rfl, rfl⟩

/-- The request for a template that uses an image. -/
def creation (name image : String) (answer : Except Cloud.Error String) : Event calls :=
  .asked (.createTemplate (.make name image instanceName)) answer

/-- How the template was come by: it was made, or adopted because its name was taken. -/
inductive Supplied (name image : String) : Except Failure String → List (Event calls) → Prop where
  | made (id : String) : Supplied name image (.ok id) [creation name image (.ok id)]
  | refused {e : Cloud.Error} : e.code ≠ some Cloud.nameTakenCode →
      Supplied name image (.error (.creation name e)) [creation name image (.error e)]
  | adopted {e : Cloud.Error} (id : String) : e.code = some Cloud.nameTakenCode →
      Supplied name image (.ok id)
        [creation name image (.error e), .asked (.templateId name) (.ok (some id))]
  | notAdopted {e : Cloud.Error} (cause : Cloud.Error) : e.code = some Cloud.nameTakenCode →
      Supplied name image (.error (.adoption name cause))
        [creation name image (.error e), .asked (.templateId name) (.error cause)]
  | missing {e : Cloud.Error} : e.code = some Cloud.nameTakenCode →
      Supplied name image (.error (.templateMissing name))
        [creation name image (.error e), .asked (.templateId name) (.ok none)]

theorem supplied_of_course {r : Except Failure String} (hc : (template name image).Course es r) :
    Supplied name image r es := by
  obtain ⟨answer, rest, rfl, hrest⟩ := Task.course_ask_iff.mp hc
  cases answer with
  | ok id =>
      obtain ⟨rfl, rfl⟩ := Task.course_done_iff.mp hrest
      exact .made id
  | error e =>
      cases hcode : e.hasCode Cloud.nameTakenCode with
      | false =>
          simp only [Task.done_bind, hcode, Bool.false_eq_true, if_false] at hrest
          obtain ⟨rfl, rfl⟩ := Task.course_done_iff.mp hrest
          exact .refused (Cloud.Error.hasCode_eq_false_iff.mp hcode)
      | true =>
          simp only [Task.done_bind, hcode, if_true] at hrest
          have htaken : e.code = some Cloud.nameTakenCode := Cloud.Error.hasCode_iff.mp hcode
          obtain ⟨answer, rest, rfl, hlast⟩ := Task.course_ask_iff.mp hrest
          rcases answer with cause | _ | id
          · obtain ⟨rfl, rfl⟩ := Task.course_done_iff.mp hlast
            exact .notAdopted cause htaken
          · obtain ⟨rfl, rfl⟩ := Task.course_done_iff.mp hlast
            exact .missing htaken
          · obtain ⟨rfl, rfl⟩ := Task.course_done_iff.mp hlast
            exact .adopted id htaken

/-! ### Preparing -/

/-- What is recorded of the subnets and of a template. -/
def descriptorOf (name id : String) (subnets : List Cloud.Subnet) : Descriptor :=
  .ofSubnetIds id name (zoneOf subnets) (subnets.map fun s => s.id)

theorem ends_prepare (name : String) : Task.Ends (prepare name)
    (fun d es => ∃ subnets image first second id, Found subnets image first ∧
      Supplied name image.id (.ok id) second ∧ es = first ++ second ∧
      d = descriptorOf name id subnets)
    (fun e es => Missed e es ∨ ∃ subnets image first second, Found subnets image first ∧
      Supplied name image.id (.error e) second ∧ es = first ++ second) := by
  refine ends_network.andThen (fun e es hmissed => .inl hmissed) ?_
  rintro network _ ⟨others, rfl⟩
  refine (ends_subnetsOf network others).andThen (fun e es hmissed => .inl hmissed) ?_
  rintro subnets _ ⟨hsubnets, rfl⟩
  refine (ends_imageAmong imagePatterns).andThen
    (fun e es hmissed => .inl (.image hsubnets hmissed)) ?_
  rintro _ first ⟨image, hfound, rfl⟩
  intro es r hc
  have hdiscovered : Found subnets image (.asked .defaultNetworks (.ok (network :: others)) ::
      .asked (.subnets network) (.ok subnets) :: first) := .intro hsubnets hfound
  rcases Task.course_andThen_iff.mp hc with
    ⟨e, htemplate, rfl⟩ | ⟨id, second, last, rfl, htemplate, hlast⟩
  · exact .inr ⟨subnets, image, _, es, hdiscovered, supplied_of_course htemplate, rfl⟩
  · obtain ⟨rfl, rfl⟩ := Task.course_done_iff.mp hlast
    rw [List.append_nil]
    exact ⟨subnets, image, _, second, id, hdiscovered, supplied_of_course htemplate, rfl, rfl⟩

/-- The ways in which preparing can go. -/
inductive Way (name dir : String) (fs : Files) :
    List (Event calls) → Except Failure String → Files → Prop where
  | missed {e : Failure} {es : List (Event calls)} : Missed e es → Way name dir fs es (.error e) fs
  | unsupplied {subnets : List Cloud.Subnet} {image : Cloud.Image} {e : Failure}
      {first second : List (Event calls)} : Found subnets image first →
      Supplied name image.id (.error e) second → Way name dir fs (first ++ second) (.error e) fs
  | unsaved {subnets : List Cloud.Subnet} {image : Cloud.Image} {id : String}
      {first second : List (Event calls)} {cause : Descriptor.RecordError} {fs' : Files} :
      Found subnets image first → Supplied name image.id (.ok id) second →
      (descriptorOf name id subnets).save fs dir = (.error cause, fs') →
      Way name dir fs (first ++ second) (.error (.record cause)) fs'
  | saved {subnets : List Cloud.Subnet} {image : Cloud.Image} {id path : String}
      {first second : List (Event calls)} {fs' : Files} :
      Found subnets image first → Supplied name image.id (.ok id) second →
      (descriptorOf name id subnets).save fs dir = (.ok path, fs') →
      Way name dir fs (first ++ second) (.ok path) fs'

variable {result : Except Failure String}

/-- Preparing that is recorded saves a descriptor, and preparing that fails before leaves the
files alone. -/
theorem course_prepareIn (hc : (prepareIn name fs dir).Course es (result, fs')) :
    (∃ e, (prepare name).Course es (.error e) ∧ result = .error e ∧ fs' = fs) ∨
    ∃ d, (prepare name).Course es (.ok d) ∧
      ((∃ cause, d.save fs dir = (.error cause, fs') ∧ result = .error (.record cause)) ∨
        ∃ path, d.save fs dir = (.ok path, fs') ∧ result = .ok path) := by
  obtain ⟨prepared, first, second, rfl, hprepare, hrest⟩ := Task.course_bind_iff.mp hc
  cases prepared with
  | error e =>
      obtain ⟨rfl, heq⟩ := Task.course_done_iff.mp hrest
      obtain ⟨rfl, rfl⟩ := Prod.mk.inj heq
      exact .inl ⟨e, by simpa using hprepare, rfl, rfl⟩
  | ok d =>
      refine .inr ⟨d, ?_⟩
      rcases hsave : d.save fs dir with ⟨cause | path, after⟩
      · simp only [hsave] at hrest
        obtain ⟨rfl, heq⟩ := Task.course_done_iff.mp hrest
        obtain ⟨rfl, rfl⟩ := Prod.mk.inj heq
        exact ⟨by simpa using hprepare, .inl ⟨cause, rfl, rfl⟩⟩
      · simp only [hsave] at hrest
        obtain ⟨rfl, heq⟩ := Task.course_done_iff.mp hrest
        obtain ⟨rfl, rfl⟩ := Prod.mk.inj heq
        exact ⟨by simpa using hprepare, .inr ⟨path, rfl, rfl⟩⟩

theorem way_of_course (hc : (prepareIn name fs dir).Course es (result, fs')) :
    Way name dir fs es result fs' := by
  rcases course_prepareIn hc with ⟨e, hprepare, rfl, rfl⟩ | ⟨d, hprepare, hsave⟩
  · rcases ends_prepare name es _ hprepare with
      hmissed | ⟨subnets, image, first, second, hfound, hsupplied, rfl⟩
    · exact .missed hmissed
    · exact .unsupplied hfound hsupplied
  · obtain ⟨subnets, image, first, second, id, hfound, hsupplied, rfl, rfl⟩ :=
      ends_prepare name es _ hprepare
    rcases hsave with ⟨cause, hsave, rfl⟩ | ⟨path, hsave, rfl⟩
    · exact .unsaved hfound hsupplied hsave
    · exact .saved hfound hsupplied hsave

/-- Recording what was found asks for nothing more. -/
theorem events_prepareIn {σ : Type} (name : String) (fs : Files) (dir : String)
    (reply : σ → (q : Cloud.Ask) → Except Cloud.Error q.Result × σ) (s : σ) :
    ((prepareIn name fs dir).play (I := calls) reply s).events =
      ((prepare name).play (I := calls) reply s).events := by
  rw [prepareIn, Task.play_bind]
  generalize (prepare name).play (I := calls) reply s = prepared
  obtain ⟨e | d, es, s'⟩ := prepared
  · exact List.append_nil es
  · rcases hsave : d.save fs dir with ⟨e | path, after⟩ <;> simp [hsave, Task.play]

theorem way_of_play {σ : Type} (name dir : String) (fs : Files)
    (reply : σ → (q : Cloud.Ask) → Except Cloud.Error q.Result × σ) (s : σ) :
    let p := (prepareIn name fs dir).play (I := calls) reply s
    Way name dir fs p.events p.result.1 p.result.2 :=
  way_of_course (Task.play_course reply (prepareIn name fs dir) s)

/-! ### What follows for the account and the files -/

/-- The requests for templates among the calls, in order. -/
def creations (es : List (Event calls)) : List Cloud.TemplateRequest :=
  es.filterMap fun
    | .asked (.createTemplate request) _ => some request
    | _ => none

theorem creations_append (es es' : List (Event calls)) :
    creations (es ++ es') = creations es ++ creations es' :=
  List.filterMap_append

theorem ImageFound.creations {patterns : List String} {image : Cloud.Image}
    (h : ImageFound patterns image es) : creations es = [] := by
  induction h with
  | here _ => rfl
  | later _ ih => exact ih

theorem ImageMissed.creations {patterns : List String} (h : ImageMissed patterns e es) :
    creations es = [] := by
  induction h with
  | failed _ => rfl
  | none => rfl
  | later _ ih => exact ih

theorem Found.creations {subnets : List Cloud.Subnet} {image : Cloud.Image}
    (h : Found subnets image es) : creations es = [] := by
  cases h with
  | intro _ himage => exact himage.creations

theorem Missed.creations (h : Missed e es) : creations es = [] := by
  cases h with
  | image _ himage => exact himage.creations
  | networks | noNetwork | subnets | noSubnets => rfl

theorem Supplied.creations {r : Except Failure String} (h : Supplied name image r es) :
    creations es = [.make name image instanceName] := by
  cases h <;> rfl

/-- The id of a template came with one of the answers. -/
def Told (name id : String) (es : List (Event calls)) : Prop :=
  (∃ request, .asked (.createTemplate request) (.ok id) ∈ es) ∨
    .asked (.templateId name) (.ok (some id)) ∈ es

theorem Supplied.told {id : String} (h : Supplied name image (.ok id) es) : Told name id es := by
  cases h with
  | made => exact .inl ⟨_, List.mem_singleton_self _⟩
  | adopted => exact .inr (by simp)

theorem Told.append {id : String} (h : Told name id es) (first : List (Event calls)) :
    Told name id (first ++ es) := by
  rcases h with ⟨request, hmem⟩ | hmem
  · exact .inl ⟨request, List.mem_append_right first hmem⟩
  · exact .inr (List.mem_append_right first hmem)

/-- The failures after which a template may have been made. -/
def Failure.IsLate : Failure → Prop
  | .creation _ _ | .adoption _ _ | .templateMissing _ | .record _ => True
  | _ => False

/-- Preparing goes one of its ways. It asks for one template at most, after a complete
discovery and for the image that was found, and a failure changes no file unless it comes from
the record. -/
structure Orderly (name dir : String) (fs : Files) (es : List (Event calls))
    (result : Except Failure String) (fs' : Files) : Prop where
  way : Way name dir fs es result fs'
  created_once : (creations es).length ≤ 1
  created_after : ∀ request ∈ creations es, ∃ subnets image first second,
    Found subnets image first ∧ es = first ++ second ∧ creations first = [] ∧
      Requests name image.id request
  used : ((∃ path, result = .ok path) ∨ ∃ cause, result = .error (.record cause)) →
    ∃ id subnets, Told name id es ∧ fs' = ((descriptorOf name id subnets).save fs dir).2
  unchanged : ∀ e, result = .error e → (∀ cause, e ≠ .record cause) → fs' = fs
  harmless : ∀ e, result = .error e → ¬e.IsLate → creations es = []

theorem ImageMissed.ne_record {patterns : List String} {cause : Descriptor.RecordError}
    (h : ImageMissed patterns e es) : e ≠ .record cause := by
  induction h with
  | failed _ => exact Failure.noConfusion
  | none => exact Failure.noConfusion
  | later _ ih => exact ih

theorem Missed.ne_record {cause : Descriptor.RecordError} (h : Missed e es) :
    e ≠ .record cause := by
  cases h with
  | image _ himage => exact himage.ne_record
  | networks | noNetwork | subnets | noSubnets => exact Failure.noConfusion

theorem Supplied.ne_record {cause : Descriptor.RecordError}
    (h : Supplied name image (.error e) es) : e ≠ .record cause := by
  cases h <;> exact Failure.noConfusion

theorem Supplied.isLate (h : Supplied name image (.error e) es) : e.IsLate := by
  cases h <;> trivial

/-- Whatever way it went, preparing asked for the template that its image calls for, or for none. -/
theorem Way.creations (h : Way name dir fs es result fs') :
    creations es = [] ∨ ∃ subnets image first second, Found subnets image first ∧
      es = first ++ second ∧ creations second = [.make name image.id instanceName] := by
  cases h with
  | missed hmissed => exact .inl hmissed.creations
  | unsupplied hfound hsupplied | unsaved hfound hsupplied | saved hfound hsupplied =>
      exact .inr ⟨_, _, _, _, hfound, rfl, hsupplied.creations⟩

theorem Way.orderly (h : Way name dir fs es result fs') :
    Orderly name dir fs es result fs' where
  way := h
  created_once := by
    rcases h.creations with hnone | ⟨subnets, image, first, second, hfound, rfl, hsecond⟩
    · simp [hnone]
    · simp [creations_append, hfound.creations, hsecond]
  created_after := by
    intro request hrequest
    rcases h.creations with hnone | ⟨subnets, image, first, second, hfound, rfl, hsecond⟩
    · simp [hnone] at hrequest
    · have hfirst := hfound.creations
      simp only [creations_append, hfirst, hsecond, List.nil_append, List.mem_singleton] at hrequest
      rw [hrequest]
      exact ⟨subnets, image, first, second, hfound, rfl, hfirst, requests_make name image.id⟩
  used := by
    intro hused
    cases h with
    | missed hmissed => simp [hmissed.ne_record] at hused
    | unsupplied _ hsupplied => simp [hsupplied.ne_record] at hused
    | unsaved hfound hsupplied hsave | saved hfound hsupplied hsave =>
        exact ⟨_, _, hsupplied.told.append _, by rw [hsave]⟩
  unchanged := by
    rintro e rfl hother
    cases h with
    | missed | unsupplied => rfl
    | @unsaved _ _ _ _ _ cause => exact absurd rfl (hother cause)
  harmless := by
    rintro e rfl hearly
    cases h with
    | missed hmissed => exact hmissed.creations
    | unsupplied _ hsupplied => exact absurd hsupplied.isLate hearly
    | unsaved => exact absurd trivial hearly

/-- Preparing changes nothing before discovery has gone through, and a failure leaves the files as
they were unless they could not take the record. -/
theorem preparing_is_orderly {σ : Type} (name dir : String) (fs : Files)
    (reply : σ → (q : Cloud.Ask) → Except Cloud.Error q.Result × σ) (s : σ) :
    let p := (prepareIn name fs dir).play (I := calls) reply s
    Orderly name dir fs p.events p.result.1 p.result.2 := by
  intro p
  have hway := way_of_course (Task.play_course reply (prepareIn name fs dir) s)
  exact hway.orderly

end ScalingTrials.Preparation
