import Mathlib.Data.List.Induction
import ScalingTrials.Proofs.Preparation
import ScalingTrials.Proofs.Wire.Timestamp

/-! # The newest image of the most wanted kind

Images are looked up by one name after another until some image has it. Of those with the name the
last with the greatest time stamp is taken, which is as recent as any of them if time stamps have
all their places filled. -/

namespace ScalingTrials

namespace Cloud.Image

open Wire.Timestamp (Moment)

variable {found found' : List Image} {image image' best : Image} {a b c : Option String}

/-! ### Time stamps -/

theorem notLater_iff :
    notLater a b = true ↔ ∀ stamp, a = some stamp → ∃ own, b = some own ∧ stamp ≤ own := by
  cases a <;> cases b <;> simp [notLater]

theorem notLater_refl (a : Option String) : notLater a a = true :=
  notLater_iff.mpr fun stamp h => ⟨stamp, h, String.le_refl stamp⟩

theorem notLater_trans (hab : notLater a b = true) (hbc : notLater b c = true) :
    notLater a c = true := by
  rw [notLater_iff] at *
  intro stamp h
  obtain ⟨middle, hmiddle, hle⟩ := hab stamp h
  obtain ⟨own, hown, hle'⟩ := hbc middle hmiddle
  exact ⟨own, hown, String.le_trans hle hle'⟩

theorem notLater_antisymm (hab : notLater a b = true) (hba : notLater b a = true) : a = b := by
  cases a <;> cases b <;> simp [notLater] at hab hba ⊢
  exact String.le_antisymm hab hba

theorem notLater_of_not (h : notLater a b = false) : notLater b a = true := by
  cases a with
  | none => cases h
  | some stamp =>
      cases b with
      | none => rfl
      | some own =>
          have hnot : ¬stamp ≤ own := of_decide_eq_false h
          exact decide_eq_true ((String.le_total stamp own).resolve_left hnot)

/-! ### The newest of a list -/

/-- The image is there, none there has a later time stamp, and none behind it has the same. -/
structure Newest (found : List Image) (image : Image) : Prop where
  last : ∃ before after, found = before ++ image :: after ∧
    ∀ other ∈ after, other.created ≠ image.created
  latest : ∀ other ∈ found, notLater other.created image.created = true

theorem newest?_concat (found : List Image) (image : Image) :
    newest? (found ++ [image]) = some (match newest? found with
      | none => image
      | some best => later best image) := by
  cases found with
  | nil => rfl
  | cons first rest => simp [newest?]

/-- One image more takes the place of the newest unless it is older. -/
theorem Newest.concat (h : Newest found best) (image : Image) :
    Newest (found ++ [image]) (later best image) := by
  obtain ⟨⟨before, after, hfound, hbehind⟩, hlatest⟩ := h
  rw [later]
  cases hlater : notLater best.created image.created with
  | true =>
      rw [if_pos rfl]
      refine ⟨⟨found, [], rfl, List.forall_mem_nil _⟩, fun other hother => ?_⟩
      rcases List.mem_append.mp hother with hother | hother
      · exact notLater_trans (hlatest other hother) hlater
      · rw [List.mem_singleton.mp hother]
        exact notLater_refl _
  | false =>
      rw [if_neg Bool.false_ne_true]
      refine ⟨⟨before, after ++ [image], by simp [hfound], fun other hother => ?_⟩,
        fun other hother => ?_⟩
      · rcases List.mem_append.mp hother with hother | hother
        · exact hbehind other hother
        · rw [List.mem_singleton.mp hother]
          intro heq
          rw [heq, notLater_refl] at hlater
          cases hlater
      · rcases List.mem_append.mp hother with hother | hother
        · exact hlatest other hother
        · rw [List.mem_singleton.mp hother]
          exact notLater_of_not hlater

theorem newest_of_newest? (h : newest? found = some image) : Newest found image := by
  induction found using List.reverseRecOn generalizing image with
  | nil => cases h
  | append_singleton found next ih =>
      rw [newest?_concat] at h
      obtain rfl := Option.some.inj h
      cases hbest : newest? found with
      | none =>
          obtain rfl := Preparation.eq_nil_of_newest?_eq_none hbest
          exact ⟨⟨[], [], rfl, List.forall_mem_nil _⟩,
            List.forall_mem_singleton.mpr (notLater_refl _)⟩
      | some best => exact (ih hbest).concat next

theorem Newest.mem (h : Newest found image) : image ∈ found := by
  obtain ⟨before, after, rfl, -⟩ := h.last
  exact List.mem_append_right before List.mem_cons_self

/-- The order of a list makes no difference to its latest time stamp. -/
theorem Newest.created_eq_of_perm (h : Newest found image) (h' : Newest found' image')
    (hperm : found'.Perm found) : image'.created = image.created :=
  notLater_antisymm (h.latest image' (hperm.mem_iff.mp h'.mem))
    (h'.latest image (hperm.mem_iff.mpr h.mem))

/-! ### What is chosen -/

/-- What holds of the image that is chosen from a list: it has a time stamp if any image there has,
and none there has a greater one; it is the last of which this holds; its time stamp is the choice
in every order of the list; and where time stamps have all their places filled, no image was made
later. -/
structure Chosen (found : List Image) (image : Image) : Prop where
  dated : (∃ other ∈ found, other.created.isSome = true) → image.created.isSome = true
  latest : ∀ other ∈ found, ∀ stamp, other.created = some stamp →
    ∃ own, image.created = some own ∧ stamp ≤ own
  last : ∃ before after, found = before ++ image :: after ∧
    ∀ other ∈ after, other.created ≠ image.created
  unmoved : ∀ found', found'.Perm found → (newest? found').map Image.created = some image.created
  recent : (∀ other ∈ found, ∀ stamp, other.created = some stamp → ∃ m : Moment, stamp = m.text) →
    ∀ other ∈ found, ∀ m : Moment, other.created = some m.text →
      ∃ own : Moment, image.created = some own.text ∧ m.instant ≤ own.instant

theorem chosen_of_newest? (h : newest? found = some image) : Chosen found image := by
  have hnewest : Newest found image := newest_of_newest? h
  have hlatest : ∀ other ∈ found, ∀ stamp, other.created = some stamp →
      ∃ own, image.created = some own ∧ stamp ≤ own := fun other hother =>
    notLater_iff.mp (hnewest.latest other hother)
  refine ⟨?_, hlatest, hnewest.last, ?_, ?_⟩
  · rintro ⟨other, hother, hdated⟩
    obtain ⟨stamp, hstamp⟩ := Option.isSome_iff_exists.mp hdated
    obtain ⟨own, hown, -⟩ := hlatest other hother stamp hstamp
    exact Option.isSome_iff_exists.mpr ⟨own, hown⟩
  · intro found' hperm
    cases hfound' : newest? found' with
    | none =>
        obtain rfl := Preparation.eq_nil_of_newest?_eq_none hfound'
        exact absurd (hperm.mem_iff.mpr hnewest.mem) List.not_mem_nil
    | some image' =>
        exact congrArg some (hnewest.created_eq_of_perm (newest_of_newest? hfound') hperm)
  · intro hform other hother m hm
    obtain ⟨stamp, hstamp, hle⟩ := hlatest other hother m.text hm
    obtain ⟨own, rfl⟩ := hform image hnewest.mem stamp hstamp
    exact ⟨own, hstamp, Moment.text_le_iff.mp hle⟩

end Cloud.Image

namespace Preparation

open Cloud (calls)
open Cloud.Image (Chosen chosen_of_newest?)

variable {name id : String} {image : Cloud.Image} {subnets : List Cloud.Subnet} {e : Failure}
  {es first second : List (Event calls)}

/-! ### Lookups of images -/

/-- The names under which images were looked up, each with the answer. -/
def lookups (es : List (Event calls)) : List (String × Except Cloud.Error (List Cloud.Image)) :=
  es.filterMap fun
    | .asked (.images _ pattern) answer => some (pattern, answer)
    | _ => none

/-- A name that no image has. -/
def unmatched (pattern : String) : String × Except Cloud.Error (List Cloud.Image) :=
  (pattern, .ok [])

/-- Images were looked up under all names up to one, each before it in vain. -/
def StoppedAt (patterns : List String) (pattern : String)
    (answer : Except Cloud.Error (List Cloud.Image)) (es : List (Event calls)) : Prop :=
  ∃ before after, patterns = before ++ pattern :: after ∧
    lookups es = before.map unmatched ++ [(pattern, answer)]

variable {patterns : List String} {pattern : String}
  {answer : Except Cloud.Error (List Cloud.Image)}

theorem lookups_append (es es' : List (Event calls)) :
    lookups (es ++ es') = lookups es ++ lookups es' :=
  List.filterMap_append

theorem StoppedAt.later (h : StoppedAt patterns pattern answer es) (wanted : String) :
    StoppedAt (wanted :: patterns) pattern answer
      (.asked (.images imageOwner wanted) (.ok []) :: es) := by
  obtain ⟨before, after, rfl, hlookups⟩ := h
  exact ⟨wanted :: before, after, rfl, congrArg (unmatched wanted :: ·) hlookups⟩

theorem ImageFound.stoppedAt (h : ImageFound patterns image es) :
    ∃ pattern found, StoppedAt patterns pattern (.ok found) es ∧
      Cloud.Image.newest? found = some image := by
  induction h with
  | @here pattern rest found image hnewest => exact ⟨pattern, found, ⟨[], rest, rfl, rfl⟩, hnewest⟩
  | @later wanted _ _ _ _ ih =>
      obtain ⟨pattern, found, hstopped, hnewest⟩ := ih
      exact ⟨pattern, found, hstopped.later wanted, hnewest⟩

theorem ImageMissed.lookups (h : ImageMissed patterns e es) :
    (e = .noImage imagePatterns ∧ lookups es = patterns.map unmatched) ∨
      ∃ pattern cause, e = .images pattern cause ∧
        StoppedAt patterns pattern (.error cause) es := by
  induction h with
  | @failed pattern rest cause => exact .inr ⟨pattern, cause, rfl, [], rest, rfl, rfl⟩
  | none => exact .inl ⟨rfl, rfl⟩
  | @later wanted _ _ _ _ ih =>
      rcases ih with ⟨he, hlookups⟩ | ⟨pattern, cause, he, hstopped⟩
      · exact .inl ⟨he, congrArg (unmatched wanted :: ·) hlookups⟩
      · exact .inr ⟨pattern, cause, he, hstopped.later wanted⟩

/-- Without an image, none was looked up, or in vain under all names, or a lookup failed. -/
theorem Missed.lookups (h : Missed e es) :
    (lookups es = [] ∧ ∀ patterns, e ≠ .noImage patterns) ∨
      (e = .noImage imagePatterns ∧ lookups es = imagePatterns.map unmatched) ∨
      ∃ pattern cause, e = .images pattern cause ∧
        StoppedAt imagePatterns pattern (.error cause) es := by
  cases h with
  | networks | noNetwork | subnets | noSubnets => exact .inl ⟨rfl, fun _ => Failure.noConfusion⟩
  | image _ hmissed => exact .inr hmissed.lookups

theorem Supplied.lookups {r : Except Failure String} (h : Supplied name id r es) :
    lookups es = [] := by
  cases h <;> rfl

theorem Supplied.ne_noImage (h : Supplied name id (.error e) es) (patterns : List String) :
    e ≠ .noImage patterns := by
  cases h <;> exact Failure.noConfusion

/-! ### The image of the template -/

/-- A template is asked for with the image chosen under the first name that any image has, and it
is asked for if there is one. Names are looked up in their order, a further one only if no image
has those before, and there is no image exactly if none has any of them. -/
structure PrefersNewest (name : String) (es : List (Event calls))
    (result : Except Failure Descriptor) : Prop where
  chosen : ∀ request ∈ creations es, ∃ pattern found image,
    StoppedAt imagePatterns pattern (.ok found) es ∧ Chosen found image ∧
      Requests name image.id request
  used : ∀ pattern found, (pattern, .ok found) ∈ lookups es → found ≠ [] →
    ∃ request, creations es = [request]
  ordered : (lookups es).map Prod.fst <+: imagePatterns
  frugal : ∀ lookup ∈ (lookups es).dropLast, ∃ pattern, lookup = unmatched pattern
  missing : result = .error (.noImage imagePatterns) ↔ lookups es = imagePatterns.map unmatched
  named : ∀ patterns, result = .error (.noImage patterns) → patterns = imagePatterns

variable {result : Except Failure Descriptor}

theorem exists_of_mem_unmatched {lookup : String × Except Cloud.Error (List Cloud.Image)}
    (h : lookup ∈ patterns.map unmatched) : ∃ pattern, lookup = unmatched pattern := by
  obtain ⟨pattern, -, rfl⟩ := List.mem_map.mp h
  exact ⟨pattern, rfl⟩

theorem answer_eq_of_mem_unmatched (h : (pattern, answer) ∈ patterns.map unmatched) :
    answer = .ok [] := by
  obtain ⟨wanted, heq⟩ := exists_of_mem_unmatched h
  exact (Prod.mk.inj heq).2

theorem map_fst_unmatched (patterns : List String) :
    (patterns.map unmatched).map Prod.fst = patterns := by
  simp [unmatched, Function.comp_def]

theorem StoppedAt.ordered (h : StoppedAt patterns pattern answer es) :
    (lookups es).map Prod.fst <+: patterns := by
  obtain ⟨before, after, rfl, hlookups⟩ := h
  rw [hlookups, List.map_append, map_fst_unmatched]
  exact ⟨after, by simp⟩

theorem StoppedAt.frugal (h : StoppedAt patterns pattern answer es) :
    ∀ lookup ∈ (lookups es).dropLast, ∃ pattern, lookup = unmatched pattern := by
  obtain ⟨before, after, -, hlookups⟩ := h
  rw [hlookups, List.dropLast_concat]
  exact fun lookup => exists_of_mem_unmatched

/-- Only under the last name can the answer be another than an empty list. -/
theorem StoppedAt.answer_eq (h : StoppedAt patterns pattern answer es) {pattern' : String}
    {answer' : Except Cloud.Error (List Cloud.Image)} (hmem : (pattern', answer') ∈ lookups es) :
    answer' = answer ∨ answer' = .ok [] := by
  obtain ⟨before, after, -, hlookups⟩ := h
  rw [hlookups, List.mem_append, List.mem_singleton] at hmem
  rcases hmem with hmem | heq
  · exact .inr (answer_eq_of_mem_unmatched hmem)
  · exact .inl (Prod.mk.inj heq).2

theorem StoppedAt.ne_unmatched (h : StoppedAt patterns pattern answer es) (hne : answer ≠ .ok []) :
    lookups es ≠ patterns.map unmatched := by
  obtain ⟨before, after, -, hlookups⟩ := h
  intro heq
  have hmem : (pattern, answer) ∈ patterns.map unmatched := by
    rw [← heq, hlookups]
    exact List.mem_append_right _ List.mem_cons_self
  exact hne (answer_eq_of_mem_unmatched hmem)

theorem stoppedAt_of_found (h : Found subnets image first)
    {r : Except Failure String} (hsupplied : Supplied name id r second) :
    ∃ pattern found, StoppedAt imagePatterns pattern (.ok found) (first ++ second) ∧
      Cloud.Image.newest? found = some image := by
  cases h with
  | intro _ himage =>
      obtain ⟨pattern, found, ⟨before, after, hpatterns, hlookups⟩, hnewest⟩ := himage.stoppedAt
      refine ⟨pattern, found, ⟨before, after, hpatterns, ?_⟩, hnewest⟩
      rw [lookups_append, hsupplied.lookups, List.append_nil]
      exact hlookups

/-- Once discovery has gone through, the template is asked for with the image that it chose. -/
theorem prefersNewest_of_found (hfound : Found subnets image first) {r : Except Failure String}
    (hsupplied : Supplied name image.id r second)
    (hresult : ∀ patterns, result ≠ .error (.noImage patterns)) :
    PrefersNewest name (first ++ second) result := by
  have hcreations : creations (first ++ second) = [.make name image.id instanceName] := by
    rw [creations_append, hfound.creations, hsupplied.creations, List.nil_append]
  obtain ⟨pattern, found, hstopped, hnewest⟩ := stoppedAt_of_found hfound hsupplied
  have hne : (.ok found : Except Cloud.Error (List Cloud.Image)) ≠ .ok [] := by
    rintro ⟨⟩
    cases hnewest
  refine ⟨?_, fun _ _ _ _ => ⟨_, hcreations⟩, hstopped.ordered, hstopped.frugal, ?_,
    fun patterns heq => absurd heq (hresult patterns)⟩
  · intro request hrequest
    rw [hcreations, List.mem_singleton] at hrequest
    rw [hrequest]
    exact ⟨pattern, found, image, hstopped, chosen_of_newest? hnewest, requests_make name image.id⟩
  · exact iff_of_false (hresult imagePatterns) (hstopped.ne_unmatched hne)

/-- Where all lookups were in vain, no template is asked for. -/
theorem prefersNewest_of_unmatched {wanted : List String} (hnone : creations es = [])
    (hlookups : lookups es = wanted.map unmatched) (hwanted : wanted <+: imagePatterns)
    (hmissing : result = .error (.noImage imagePatterns) ↔
      lookups es = imagePatterns.map unmatched)
    (hnamed : ∀ patterns, result = .error (.noImage patterns) → patterns = imagePatterns) :
    PrefersNewest name es result where
  chosen := by
    rw [hnone]
    exact List.forall_mem_nil _
  used pattern found hmem hne := by
    rw [hlookups] at hmem
    exact absurd (Except.ok.inj (answer_eq_of_mem_unmatched hmem)) hne
  ordered := by
    have hnames : (lookups es).map Prod.fst = wanted := by rw [hlookups, map_fst_unmatched]
    exact hnames.symm ▸ hwanted
  frugal lookup hmem := by
    rw [hlookups] at hmem
    exact exists_of_mem_unmatched (List.dropLast_subset _ hmem)
  missing := hmissing
  named := hnamed

/-- Before discovery has gone through, no image was found and no template is asked for. -/
theorem prefersNewest_of_missed (h : Missed e es) : PrefersNewest name es (.error e) := by
  have hnone : creations es = [] := h.creations
  rcases h.lookups with ⟨hlookups, he⟩ | ⟨rfl, hlookups⟩ | ⟨pattern, cause, rfl, hstopped⟩
  · have hfew : lookups es = ([] : List String).map unmatched := hlookups
    have hother : ∀ patterns, (.error e : Except Failure Descriptor) ≠ .error (.noImage patterns) :=
      fun patterns heq => he patterns (Except.error.inj heq)
    refine prefersNewest_of_unmatched hnone hfew List.nil_prefix ?_
      fun patterns heq => absurd heq (hother patterns)
    refine iff_of_false (hother imagePatterns) ?_
    rw [hlookups]
    exact (List.cons_ne_nil _ _).symm
  · refine prefersNewest_of_unmatched hnone hlookups (List.prefix_refl _)
      (iff_of_true rfl hlookups) fun patterns heq => ?_
    cases heq
    rfl
  · refine ⟨?_, ?_, hstopped.ordered, hstopped.frugal, iff_of_false ?_ ?_, nofun⟩
    · rw [hnone]
      exact List.forall_mem_nil _
    · intro pattern' found hmem hne
      rcases hstopped.answer_eq hmem with heq | heq
      · cases heq
      · exact absurd (Except.ok.inj heq) hne
    · simp
    · exact hstopped.ne_unmatched nofun

theorem prefersNewest_of_course (hc : (prepare name).Course es result) :
    PrefersNewest name es result := by
  have hends := ends_prepare name es result hc
  cases result with
  | ok d =>
      obtain ⟨subnets, image, first, second, id, hfound, hsupplied, rfl, -⟩ := hends
      exact prefersNewest_of_found hfound hsupplied nofun
  | error e =>
      rcases hends with hmissed | ⟨subnets, image, first, second, hfound, hsupplied, rfl⟩
      · exact prefersNewest_of_missed hmissed
      · refine prefersNewest_of_found hfound hsupplied fun patterns hnone => ?_
        exact hsupplied.ne_noImage patterns (Except.error.inj hnone)

/-! ### What an account offers -/

section

variable {σ : Type} {reply : σ → (q : Cloud.Ask) → Except Cloud.Error q.Result × σ} {s : σ}
  {preferred fallback : List Cloud.Image}

/-- Lookups of images are answered with one list under the first name and, if that one is empty,
with another under the second. -/
inductive Stocks (reply : σ → (q : Cloud.Ask) → Except Cloud.Error q.Result × σ) (s : σ)
    (preferred fallback : List Cloud.Image) : Prop where
  | intro {s₁ s₂ : σ} :
      reply s (.images "amazon" "al2023-ami-2023.*-x86_64") = (.ok preferred, s₁) →
      (preferred = [] →
        reply s₁ (.images "amazon" "amzn2-ami-hvm-*-x86_64-gp2") = (.ok fallback, s₂)) →
      Stocks reply s preferred fallback

/-- An account has a default network with subnets in it, and its lookups of images are answered. -/
inductive Offers (reply : σ → (q : Cloud.Ask) → Except Cloud.Error q.Result × σ) (s : σ)
    (preferred fallback : List Cloud.Image) : Prop where
  | intro {network : String} {others : List String} {subnets : List Cloud.Subnet} {s₁ s₂ : σ} :
      reply s .defaultNetworks = (.ok (network :: others), s₁) →
      reply s₁ (.subnets network) = (.ok subnets, s₂) → subnets ≠ [] →
      Stocks reply s₂ preferred fallback → Offers reply s preferred fallback

/-- A template is asked for, once, with the image chosen from a list. -/
def AsksWith (name : String) (found : List Cloud.Image) (es : List (Event calls)) : Prop :=
  ∃ request image, creations es = [request] ∧ Requests name image.id request ∧ Chosen found image

/-- Images are looked up under the first name, and under the second only if none has the first. -/
inductive LooksUp (fallback : List Cloud.Image) (es : List (Event calls)) :
    List Cloud.Image → Prop where
  | once {preferred : List Cloud.Image} : preferred ≠ [] →
      lookups es = [("al2023-ami-2023.*-x86_64", .ok preferred)] → LooksUp fallback es preferred
  | twice : lookups es =
        [("al2023-ami-2023.*-x86_64", .ok []), ("amzn2-ami-hvm-*-x86_64-gp2", .ok fallback)] →
      LooksUp fallback es []

/-- The template is asked for with an image of the first list that has any, and without one in
either list it is said that there is no image. -/
structure UsesOffered (name : String) (preferred fallback : List Cloud.Image)
    (es : List (Event calls)) (result : Except Failure Descriptor) : Prop where
  looked_up : LooksUp fallback es preferred
  with_preferred : preferred ≠ [] → AsksWith name preferred es
  with_fallback : preferred = [] → fallback ≠ [] → AsksWith name fallback es
  missing : (∃ patterns, result = .error (.noImage patterns)) ↔ preferred = [] ∧ fallback = []

/-- The template is asked for with an image of the list that was looked up last. -/
theorem PrefersNewest.asksWith {found : List Cloud.Image} (h : PrefersNewest name es result)
    (hlast : (lookups es).getLast? = some (pattern, .ok found)) (hfound : found ≠ []) :
    AsksWith name found es := by
  obtain ⟨request, hcreations⟩ := h.used pattern found (List.mem_of_getLast? hlast) hfound
  have hrequest : request ∈ creations es := by simp [hcreations]
  obtain ⟨_, found', image, ⟨before, after, -, hlookups⟩, hchosen, hrequests⟩ :=
    h.chosen request hrequest
  rw [hlookups, List.getLast?_concat] at hlast
  cases hlast
  exact ⟨request, image, hcreations, hrequests, hchosen⟩

theorem PrefersNewest.noImage_iff (h : PrefersNewest name es result) :
    (∃ patterns, result = .error (.noImage patterns)) ↔
      lookups es = imagePatterns.map unmatched := by
  constructor
  · rintro ⟨patterns, hresult⟩
    obtain rfl := h.named patterns hresult
    exact h.missing.mp hresult
  · intro hlookups
    exact ⟨imagePatterns, h.missing.mpr hlookups⟩

theorem PrefersNewest.usesOffered (h : PrefersNewest name es result)
    (hlooked : LooksUp fallback es preferred) : UsesOffered name preferred fallback es result := by
  refine ⟨hlooked, fun hsome => ?_, fun hnone hsome => ?_, ?_⟩
  · cases hlooked with
    | once _ hlookups => exact h.asksWith (by rw [hlookups]; rfl) hsome
    | twice _ => exact absurd rfl hsome
  · cases hlooked with
    | once hpreferred _ => exact absurd hnone hpreferred
    | twice hlookups => exact h.asksWith (by rw [hlookups]; rfl) hsome
  · rw [h.noImage_iff]
    cases hlooked with
    | once hpreferred hlookups => simp [hlookups, imagePatterns, unmatched, hpreferred]
    | twice hlookups => simp [hlookups, imagePatterns, unmatched]

/-- Other calls make no difference. -/
theorem LooksUp.of_lookups_eq {es' : List (Event calls)} (h : LooksUp fallback es preferred)
    (heq : lookups es' = lookups es) : LooksUp fallback es' preferred := by
  cases h with
  | once hpreferred hlookups => exact .once hpreferred (heq.trans hlookups)
  | twice hlookups => exact .twice (heq.trans hlookups)

theorem ImageFound.looksUp (h : ImageFound imagePatterns image es)
    (hanswered : Task.Answered (I := calls) reply s es)
    (hstocks : Stocks reply s preferred fallback) : LooksUp fallback es preferred := by
  obtain ⟨hpreferred, hfallback⟩ := hstocks
  cases h with
  | here hnewest =>
      obtain ⟨heq, -⟩ := hanswered.of_asked hpreferred
      cases heq
      refine .once ?_ rfl
      rintro rfl
      cases hnewest
  | later h =>
      obtain ⟨heq, hrest⟩ := hanswered.of_asked hpreferred
      cases heq
      cases h with
      | here _ =>
          obtain ⟨heq, -⟩ := hrest.of_asked (hfallback rfl)
          cases heq
          exact .twice rfl
      | later h => cases h

theorem ImageMissed.looksUp (h : ImageMissed imagePatterns e es)
    (hanswered : Task.Answered (I := calls) reply s es)
    (hstocks : Stocks reply s preferred fallback) : LooksUp fallback es preferred := by
  obtain ⟨hpreferred, hfallback⟩ := hstocks
  cases h with
  | failed cause =>
      obtain ⟨heq, -⟩ := hanswered.of_asked hpreferred
      cases heq
  | later h =>
      obtain ⟨heq, hrest⟩ := hanswered.of_asked hpreferred
      cases heq
      cases h with
      | failed cause =>
          obtain ⟨heq, -⟩ := hrest.of_asked (hfallback rfl)
          cases heq
      | later h =>
          obtain ⟨heq, -⟩ := hrest.of_asked (hfallback rfl)
          cases heq
          cases h
          exact .twice rfl

/-- Once network and subnets have been told, the images are still to be looked up. -/
theorem Offers.stocks {network : String} {others : List String}
    (h : Offers reply s preferred fallback)
    (hanswered : Task.Answered (I := calls) reply s
      (.asked .defaultNetworks (.ok (network :: others)) ::
        .asked (.subnets network) (.ok subnets) :: es)) :
    ∃ s', Task.Answered (I := calls) reply s' es ∧ Stocks reply s' preferred fallback := by
  obtain ⟨hnetworks, hsubnets, -, hstocks⟩ := h
  obtain ⟨heq, hrest⟩ := hanswered.of_asked hnetworks
  cases heq
  obtain ⟨-, himages⟩ := hrest.of_asked hsubnets
  exact ⟨_, himages, hstocks⟩

theorem Found.looksUp (h : Found subnets image es)
    (hanswered : Task.Answered (I := calls) reply s es)
    (hoffers : Offers reply s preferred fallback) : LooksUp fallback es preferred := by
  cases h with
  | intro _ himage =>
      obtain ⟨s', himages, hstocks⟩ := hoffers.stocks hanswered
      exact (himage.looksUp himages hstocks).of_lookups_eq rfl

/-- Where images are offered, nothing else can be missing. -/
theorem Missed.looksUp (h : Missed e es) (hanswered : Task.Answered (I := calls) reply s es)
    (hoffers : Offers reply s preferred fallback) : LooksUp fallback es preferred := by
  have ⟨hnetworks, hsubnets, hsome, _⟩ := hoffers
  cases h with
  | networks | noNetwork =>
      obtain ⟨heq, -⟩ := hanswered.of_asked hnetworks
      cases heq
  | subnets =>
      obtain ⟨heq, hrest⟩ := hanswered.of_asked hnetworks
      cases heq
      obtain ⟨heq, -⟩ := hrest.of_asked hsubnets
      cases heq
  | noSubnets =>
      obtain ⟨heq, hrest⟩ := hanswered.of_asked hnetworks
      cases heq
      obtain ⟨heq, -⟩ := hrest.of_asked hsubnets
      cases heq
      exact absurd rfl hsome
  | image _ himage =>
      obtain ⟨s', himages, hstocks⟩ := hoffers.stocks hanswered
      exact (himage.looksUp himages hstocks).of_lookups_eq rfl

theorem Supplied.looksUp {id : String} {r : Except Failure String} (h : Supplied name id r second)
    (hfirst : LooksUp fallback first preferred) : LooksUp fallback (first ++ second) preferred :=
  hfirst.of_lookups_eq (by rw [lookups_append, h.lookups, List.append_nil])

theorem looksUp_of_course (hc : (prepare name).Course es result)
    (hanswered : Task.Answered (I := calls) reply s es)
    (hoffers : Offers reply s preferred fallback) : LooksUp fallback es preferred := by
  have hends := ends_prepare name es result hc
  cases result with
  | ok d =>
      obtain ⟨subnets, image, first, second, id, hfound, hsupplied, rfl, -⟩ := hends
      exact hsupplied.looksUp (hfound.looksUp hanswered.of_append hoffers)
  | error e =>
      rcases hends with hmissed | ⟨subnets, image, first, second, hfound, hsupplied, rfl⟩
      · exact hmissed.looksUp hanswered hoffers
      · exact hsupplied.looksUp (hfound.looksUp hanswered.of_append hoffers)

end

/-- The template is asked for with the newest image under the most wanted name that any image
has, and preparing finds no image exactly if none has any of the names. Where an account offers
images, they are looked up under the first name, and under the second if there is none. -/
theorem newest_image_is_used {σ : Type} (name : String)
    (reply : σ → (q : Cloud.Ask) → Except Cloud.Error q.Result × σ) (s : σ) :
    let p := (prepare name).play (I := calls) reply s
    PrefersNewest name p.events p.result ∧
      ∀ preferred fallback, Offers reply s preferred fallback →
        UsesOffered name preferred fallback p.events p.result := by
  intro p
  have hcourse := Task.play_course reply (prepare name) s
  have hanswered := Task.answered_play reply (prepare name) s
  have hprefers : PrefersNewest name p.events p.result := prefersNewest_of_course hcourse
  refine ⟨hprefers, fun preferred fallback hoffers => ?_⟩
  exact hprefers.usesOffered (looksUp_of_course hcourse hanswered hoffers)

/-- An account with one network and one subnet, which answers each lookup of images with a list. -/
def stocked (preferred fallback : List Cloud.Image) (_ : Unit) :
    (q : Cloud.Ask) → Except Cloud.Error q.Result × Unit
  | .defaultNetworks => (.ok ["vpc-1"], ())
  | .subnets _ => (.ok [⟨"subnet-a", some "us-west-2a"⟩], ())
  | .images _ pattern =>
    (.ok (if pattern = "al2023-ami-2023.*-x86_64" then preferred else fallback), ())
  | .createTemplate _ => (.ok "lt-1", ())
  | .templateId _ => (.ok none, ())
  | .deleteTemplate _ => (.ok (), ())

theorem offers_stocked (preferred fallback : List Cloud.Image) :
    Offers (stocked preferred fallback) () preferred fallback :=
  .intro rfl rfl (List.cons_ne_nil _ _) (.intro rfl fun _ => rfl)

/-- Without an image under the first name the newest under the second is used, wherever in the list
it stands, and without either there is none. -/
theorem newest_image_is_used_stocked :
    let aged : List Cloud.Image := [⟨"ami-old", some "2023-11-30T23:59:59.999Z"⟩,
      ⟨"ami-new", some "2024-01-02T03:04:05.000Z"⟩, ⟨"ami-undated", none⟩]
    let p := fun fallback => (prepare "name").play (I := calls) (stocked [] fallback) ()
    (∃ request, creations (p aged).events = [request] ∧ request.name = "name" ∧
      request.image = "ami-new") ∧
    ∃ patterns, (p []).result = .error (.noImage patterns) := by
  intro aged p
  obtain ⟨-, hused⟩ := newest_image_is_used "name" (stocked [] aged) ()
  obtain ⟨-, hmissed⟩ := newest_image_is_used "name" (stocked [] []) ()
  obtain ⟨request, image, hcreations, hrequests, hchosen⟩ :=
    (hused [] aged (offers_stocked [] aged)).with_fallback rfl (List.cons_ne_nil _ _)
  refine ⟨⟨request, hcreations, hrequests.name_eq, ?_⟩,
    (hmissed [] [] (offers_stocked [] [])).missing.mpr ⟨rfl, rfl⟩⟩
  obtain ⟨own, hown, hle⟩ := hchosen.latest ⟨"ami-new", some "2024-01-02T03:04:05.000Z"⟩
    (by simp [aged]) _ rfl
  obtain ⟨before, after, hfound, -⟩ := hchosen.last
  have hmem : image ∈ aged := hfound ▸ List.mem_append_right before List.mem_cons_self
  rw [hrequests.image_eq]
  simp only [aged, List.mem_cons, List.not_mem_nil, or_false] at hmem
  rcases hmem with rfl | rfl | rfl
  · cases hown
    exact absurd hle (by decide)
  · rfl
  · cases hown

end Preparation

end ScalingTrials
