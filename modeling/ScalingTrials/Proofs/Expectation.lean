import ScalingTrials.Group
import ScalingTrials.Proofs.Tags

/-! # What an expectation demands

An expectation makes demands in a fixed order. A group meets it exactly if it meets all of them;
otherwise the first that it does not meet is told. -/

namespace ScalingTrials.Expectation

/-! ### Demands in order -/

/-- Something that is demanded of a group, and what may be said where it is not met. -/
structure Demand where
  met : Prop
  said : Mismatch → Prop

/-- A verdict on demands in order: all are met, or something is said of the first that is not. -/
inductive Judged : List Demand → Except Mismatch Unit → Prop where
  | nil : Judged [] (.ok ())
  | met {d : Demand} {ds : List Demand} {verdict : Except Mismatch Unit} :
      d.met → Judged ds verdict → Judged (d :: ds) verdict
  | missed {d : Demand} {ds : List Demand} {m : Mismatch} :
      ¬d.met → (∀ m', d.said m' ↔ m' = m) → Judged (d :: ds) (.error m)

/-- What is said of the first demand that is not met. -/
def FirstMissed (demands : List Demand) (m : Mismatch) : Prop :=
  ∃ before d after, demands = before ++ d :: after ∧ (∀ d' ∈ before, d'.met) ∧ ¬d.met ∧ d.said m

variable {d : Demand} {ds ds' : List Demand} {verdict rest : Except Mismatch Unit} {m : Mismatch}

theorem firstMissed_cons_iff :
    FirstMissed (d :: ds) m ↔ ¬d.met ∧ d.said m ∨ d.met ∧ FirstMissed ds m := by
  constructor
  · rintro ⟨before, d', after, heq, hbefore, hmissed, hsaid⟩
    cases before with
    | nil =>
        cases heq
        exact .inl ⟨hmissed, hsaid⟩
    | cons first before =>
        cases heq
        obtain ⟨hfirst, hbefore⟩ := List.forall_mem_cons.mp hbefore
        exact .inr ⟨hfirst, before, d', after, rfl, hbefore, hmissed, hsaid⟩
  · rintro (⟨hmissed, hsaid⟩ | ⟨hmet, before, d', after, rfl, hbefore, hmissed, hsaid⟩)
    · exact ⟨[], d, ds, rfl, by simp, hmissed, hsaid⟩
    · exact ⟨d :: before, d', after, rfl, List.forall_mem_cons.mpr ⟨hmet, hbefore⟩, hmissed, hsaid⟩

theorem Judged.ok_iff (h : Judged ds verdict) : verdict = .ok () ↔ ∀ d ∈ ds, d.met := by
  induction h with
  | nil => simp
  | met hmet _ ih => simp [ih, hmet]
  | missed hmissed _ => simp [hmissed]

theorem Judged.error_iff (h : Judged ds verdict) : verdict = .error m ↔ FirstMissed ds m := by
  induction h with
  | nil => simp [FirstMissed]
  | met hmet _ ih => simp [firstMissed_cons_iff, ih, hmet]
  | missed hmissed hsaid => simp [firstMissed_cons_iff, hmissed, hsaid, eq_comm]

/-- Checks one after the other judge the demands of both. -/
theorem Judged.bind (h : Judged ds verdict) (hrest : Judged ds' rest) :
    Judged (ds ++ ds') (verdict >>= fun _ => rest) := by
  induction h with
  | nil => exact hrest
  | met hmet _ ih => exact .met hmet ih
  | missed hmissed hsaid => exact .missed hmissed hsaid

/-! ### What a resource specifies -/

/-- The resource has a member of its specification with a value. -/
def Specifies (resource : Json) (member : String) (value : Json) : Prop :=
  ∃ spec, resource.get? "spec" = some spec ∧ spec.get? member = some value

/-- The resource specifies a whole number that fits 64 bits. -/
def SpecifiesSize (resource : Json) (member : String) (n : Int) : Prop :=
  Specifies resource member (.int n) ∧ -(signedSize : Int) ≤ n ∧ n < (signedSize : Int)

/-- The resource specifies a desired capacity; the least size is one if there is no other. -/
def SpecifiesDesired (resource : Json) (n : Int) : Prop :=
  SpecifiesSize resource "desiredCapacity" n ∨
    (∀ m, ¬SpecifiesSize resource "desiredCapacity" m) ∧ SpecifiesSize resource "minSize" n

variable {resource : Json} {member : String}

theorem specified?_eq_some_iff {value : Json} :
    specified? resource member = some value ↔ Specifies resource member value :=
  Option.bind_eq_some_iff

theorem specifiedName?_eq_some_iff {name : String} :
    specifiedName? resource = some name ↔
      Specifies resource "autoScalingGroupName" (.str name) := by
  simp [specifiedName?, Option.bind_eq_some_iff, Json.asString?_eq_some_iff,
    specified?_eq_some_iff]

theorem specifiedSize?_eq_some_iff {n : Int} :
    specifiedSize? resource member = some n ↔ SpecifiesSize resource member n := by
  simp only [specifiedSize?, Option.bind_eq_some_iff, Json.asInt64?_eq_some_iff,
    specified?_eq_some_iff, SpecifiesSize]
  constructor
  · rintro ⟨_, hvalue, rfl, hn⟩
    exact ⟨hvalue, hn⟩
  · rintro ⟨hvalue, hn⟩
    exact ⟨_, hvalue, rfl, hn⟩

theorem specifiedDesired?_eq_some_iff {n : Int} :
    (specifiedSize? resource "desiredCapacity").or (specifiedSize? resource "minSize") = some n ↔
      SpecifiesDesired resource n := by
  rw [Option.or_eq_some_iff, Option.eq_none_iff_forall_ne_some]
  simp only [ne_eq, specifiedSize?_eq_some_iff, SpecifiesDesired]

/-! ### The demands of an expectation -/

/-- A name is as specified, if any is. -/
def named (specified : String → Prop) (actual : String) : Demand where
  met := ∀ name, specified name → name = actual
  said m := ∃ name, specified name ∧ m = .name actual name

/-- A size is specified, and as specified. -/
def sized (what : String) (specified : Int → Prop) (actual : Int32) : Demand where
  met := specified actual.toInt
  said m := (∃ n, specified n ∧ m = .size what actual.toInt n) ∨
    (∀ n, ¬specified n) ∧ m = .unspecified what

/-- The tags that the controller puts on every group are there. -/
def marked (tags : List Tag) : Demand where
  met := ∀ key ∈ Tag.requiredKeys, ∃ t ∈ tags, t.key = key
  said m := m = .missingTags (Tag.requiredKeys.filter fun key => tags.all fun t => t.key ≠ key)

/-- The tags of the user, as a dictionary, are the expected ones. -/
def tagged (values : Dictionary) (tags : List Tag) : Demand where
  met := ∀ key value, Tag.isSystem key = false →
    (values.get? key = some value ↔ Tag.LastValue tags key value)
  said m := m = .otherTags tags values

/-- A tag is the first of its key. -/
def IsFirst (tags : List Tag) (key : String) (t : Tag) : Prop :=
  ∃ before after, tags = before ++ t :: after ∧ t.key = key ∧ ∀ other ∈ before, other.key ≠ key

theorem find?_eq_some_iff_isFirst {tags : List Tag} {key : String} {t : Tag} :
    Tag.find? tags key = some t ↔ IsFirst tags key t := by
  simp only [Tag.find?, List.find?_eq_some_iff_append, decide_eq_true_eq, Bool.not_eq_true',
    decide_eq_false_iff_not]
  constructor
  · rintro ⟨hkey, before, after, heq, hfirst⟩
    exact ⟨before, after, heq, hkey, hfirst⟩
  · rintro ⟨before, after, heq, hkey, hfirst⟩
    exact ⟨hkey, before, after, heq, hfirst⟩

namespace IsFirst

variable {tags : List Tag} {key : String} {t t' : Tag}

theorem mem (h : IsFirst tags key t) : t ∈ tags := by
  obtain ⟨before, after, rfl, -⟩ := h
  simp

theorem key_eq (h : IsFirst tags key t) : t.key = key := by
  obtain ⟨before, after, -, hkey, -⟩ := h
  exact hkey

theorem unique (h : IsFirst tags key t) (h' : IsFirst tags key t') : t = t' := by
  rw [← find?_eq_some_iff_isFirst] at h h'
  exact Option.some.inj (h.symm.trans h')

end IsFirst

/-- A tag of a key is there. -/
def present (key : String) (tags : List Tag) : Demand where
  met := ∃ t ∈ tags, t.key = key
  said m := m = .noTag key

/-- A part of the first tag of a key is the expected one. -/
def fitting {α : Type} (part : Tag → α) (expected : α) (wrong : α → Mismatch) (key : String)
    (tags : List Tag) : Demand where
  met := ∃ t, IsFirst tags key t ∧ part t = expected
  said m := ∃ t, IsFirst tags key t ∧ m = wrong (part t)

/-- What is demanded of a group, in order. -/
def demands (e : Expectation) (g : Group) (resource : Json) : List Demand :=
  match e with
  | matching =>
    [named (fun name => Specifies resource "autoScalingGroupName" (.str name)) g.name,
      sized minSize (SpecifiesSize resource "minSize") g.min,
      sized maxSize (SpecifiesSize resource "maxSize") g.max,
      sized desiredCapacity (SpecifiesDesired resource) g.desired]
  | desired n => [sized desiredCapacity (n.toInt = ·) g.desired]
  | bounds min max =>
    [sized minSize (min.toInt = ·) g.min, sized maxSize (max.toInt = ·) g.max]
  | tags values => [marked g.tags, tagged values g.tags]
  | tag key value propagated =>
    [present key g.tags, fitting Tag.value value (.tagValue · value) key g.tags,
      fitting Tag.propagated propagated (.propagation · propagated) key g.tags]

/-! ### The checks judge the demands -/

theorem judged_checkName {specified : String → Prop} {expected? : Option String}
    (h : ∀ name, expected? = some name ↔ specified name) (actual : String) :
    Judged [named specified actual] (checkName expected? actual) := by
  cases expected? with
  | none =>
      have hnone : ∀ name, ¬specified name := fun name => by simp [← h]
      exact .met (fun name hname => absurd hname (hnone name)) .nil
  | some expected =>
      have hsame : ∀ name, specified name ↔ expected = name := fun name => by simp [← h]
      by_cases heq : expected = actual
      · rw [checkName, if_pos heq]
        exact .met (fun name hname => ((hsame name).mp hname).symm.trans heq) .nil
      · rw [checkName, if_neg heq]
        refine .missed (fun hmet => heq (hmet expected ((hsame expected).mpr rfl))) fun m => ?_
        simp [named, hsame]

theorem judged_checkSpecified {specified : Int → Prop} {expected? : Option Int}
    (h : ∀ n, expected? = some n ↔ specified n) (what : String) (actual : Int32) :
    Judged [sized what specified actual] (checkSpecified what expected? actual) := by
  cases expected? with
  | none =>
      have hnone : ∀ n, ¬specified n := fun n => by simp [← h]
      exact .missed (hnone _) fun m => by simp [sized, hnone]
  | some expected =>
      have hsame : ∀ n, specified n ↔ expected = n := fun n => by simp [← h]
      rw [checkSpecified]
      by_cases heq : expected = actual.toInt
      · rw [checkSize, if_pos heq]
        exact .met ((hsame _).mpr heq) .nil
      · rw [checkSize, if_neg heq]
        exact .missed (fun hmet => heq ((hsame _).mp hmet)) fun m => by simp [sized, hsame]

/-- A size that an expectation gives itself is always specified. -/
theorem judged_checkSize (what : String) (expected : Int) (actual : Int32) :
    Judged [sized what (expected = ·) actual] (checkSize what expected actual) :=
  have hspecified : ∀ n, some expected = some n ↔ expected = n := fun _ => Option.some_inj
  judged_checkSpecified hspecified what actual

theorem judged_tags (values : Dictionary) (g : Group) (resource : Json) :
    Judged ((tags values).demands g resource) ((tags values).check g resource) := by
  have hmissing : Tag.missingKeys g.tags =
      Tag.requiredKeys.filter fun key => g.tags.all fun t => t.key ≠ key := by
    refine List.filter_congr fun key _ => ?_
    rw [List.not_any_eq_all_not]
    simp
  rw [check, demands]
  cases hkeys : Tag.missingKeys g.tags with
  | nil =>
      refine .met (Tag.missingKeys_eq_nil_iff.mp hkeys) ?_
      cases hagree : Tag.agree values g.tags with
      | true => exact .met (Tag.agree_iff.mp hagree) .nil
      | false =>
          have hother : ¬(tagged values g.tags).met := fun hmet => by
            rw [Tag.agree_iff.mpr hmet] at hagree
            cases hagree
          exact .missed hother fun m => Iff.rfl
  | cons key keys =>
      have hmarked : ¬(marked g.tags).met := fun hmet => by
        rw [Tag.missingKeys_eq_nil_iff.mpr hmet] at hkeys
        cases hkeys
      refine .missed hmarked fun m => ?_
      rw [← hkeys, hmissing]
      rfl

theorem judged_fitting {α : Type} [DecidableEq α] {part : Tag → α} {key : String}
    {tags : List Tag} {t : Tag} (h : ∀ t', IsFirst tags key t' ↔ t = t') (expected : α)
    (wrong : α → Mismatch) (hrest : Judged ds rest) :
    Judged (fitting part expected wrong key tags :: ds)
      (if part t ≠ expected then .error (wrong (part t)) else rest) := by
  by_cases heq : part t = expected
  · rw [if_neg (not_not_intro heq)]
    exact .met ⟨t, (h t).mpr rfl, heq⟩ hrest
  · rw [if_pos heq]
    exact .missed (by simpa [fitting, h] using heq) fun m => by simp [fitting, h]

theorem judged_tag (key value : String) (propagated : Bool) (g : Group) (resource : Json) :
    Judged ((tag key value propagated).demands g resource)
      ((tag key value propagated).check g resource) := by
  rw [check, demands]
  cases hfound : Tag.find? g.tags key with
  | none =>
      have hnone : ¬(present key g.tags).met := by
        rintro ⟨t, ht, hkey⟩
        exact List.find?_eq_none.mp hfound t ht (decide_eq_true hkey)
      exact .missed hnone fun m => Iff.rfl
  | some t =>
      have hsame : ∀ t', IsFirst g.tags key t' ↔ t = t' := fun t' => by
        rw [← find?_eq_some_iff_isFirst, hfound, Option.some.injEq]
      refine .met ⟨t, ((hsame t).mpr rfl).mem, ((hsame t).mpr rfl).key_eq⟩ ?_
      exact judged_fitting hsame value _ (judged_fitting hsame propagated _ .nil)

theorem judged_check (e : Expectation) (g : Group) (resource : Json) :
    Judged (e.demands g resource) (e.check g resource) := by
  cases e with
  | matching =>
      refine (judged_checkName (fun _ => specifiedName?_eq_some_iff) g.name).bind ?_
      refine (judged_checkSpecified (fun _ => specifiedSize?_eq_some_iff) minSize g.min).bind ?_
      refine (judged_checkSpecified (fun _ => specifiedSize?_eq_some_iff) maxSize g.max).bind ?_
      exact judged_checkSpecified (fun _ => specifiedDesired?_eq_some_iff) desiredCapacity g.desired
  | desired n => exact judged_checkSize desiredCapacity n.toInt g.desired
  | bounds min max =>
      exact (judged_checkSize minSize min.toInt g.min).bind
        (judged_checkSize maxSize max.toInt g.max)
  | tags values => exact judged_tags values g resource
  | tag key value propagated => exact judged_tag key value propagated g resource

/-! ### The meaning of an expectation -/

/-- What it is to meet an expectation, for a group and its resource as it was last read. -/
def Meets : Expectation → Group → Json → Prop
  | matching, g, resource =>
    (∀ name, Specifies resource "autoScalingGroupName" (.str name) → name = g.name) ∧
      SpecifiesSize resource "minSize" g.min.toInt ∧
      SpecifiesSize resource "maxSize" g.max.toInt ∧
      SpecifiesDesired resource g.desired.toInt
  | desired n, g, _ => g.desired = n
  | bounds min max, g, _ => g.min = min ∧ g.max = max
  | tags values, g, _ =>
    (∀ key ∈ Tag.requiredKeys, ∃ t ∈ g.tags, t.key = key) ∧
      ∀ key value, Tag.isSystem key = false →
        (values.get? key = some value ↔ Tag.LastValue g.tags key value)
  | tag key value propagated, g, _ => IsFirst g.tags key ⟨key, value, propagated⟩

theorem meets_iff (e : Expectation) (g : Group) (resource : Json) :
    e.Meets g resource ↔ ∀ d ∈ e.demands g resource, d.met := by
  cases e with
  | matching => simp [Meets, demands, named, sized]
  | desired n => simp [Meets, demands, sized, Int32.toInt_inj, eq_comm]
  | bounds min max => simp [Meets, demands, sized, Int32.toInt_inj, eq_comm]
  | tags values => simp [Meets, demands, marked, tagged]
  | tag key value propagated =>
      simp only [Meets, demands, present, fitting, List.forall_mem_cons]
      constructor
      · intro h
        exact ⟨⟨_, h.mem, rfl⟩, ⟨_, h, rfl⟩, ⟨_, h, rfl⟩, by simp⟩
      · rintro ⟨-, ⟨t, h, rfl⟩, ⟨t', h', rfl⟩, -⟩
        obtain rfl := h.unique h'
        obtain rfl := h.key_eq
        exact h

/-- A check succeeds exactly if the group meets the expectation, and otherwise tells the first of
the demands that it does not meet. What a resource gives as a size is none unless it is a whole
number that fits 64 bits, and it gives nothing unless its specification is an object. -/
theorem check_decides_meaning (e : Expectation) (g : Group) (resource : Json) :
    (e.check g resource = .ok () ↔ e.Meets g resource) ∧
    (∀ m, e.check g resource = .error m ↔ FirstMissed (e.demands g resource) m) ∧
    (∀ member value, Specifies resource member value →
      (∀ n, value = .int n → n < -(signedSize : Int) ∨ (signedSize : Int) ≤ n) →
        ∀ n, ¬SpecifiesSize resource member n) ∧
    ((∀ members, resource.get? "spec" ≠ some (.obj members)) →
      ∀ member value, ¬Specifies resource member value) := by
  have hjudged := judged_check e g resource
  refine ⟨hjudged.ok_iff.trans (meets_iff e g resource).symm, fun m => hjudged.error_iff, ?_, ?_⟩
  · rintro member value ⟨spec, hspec, hvalue⟩ hunfit n ⟨⟨spec', hspec', hn⟩, hlow, hhigh⟩
    obtain rfl : spec = spec' := Option.some.inj (hspec.symm.trans hspec')
    obtain rfl : value = .int n := Option.some.inj (hvalue.symm.trans hn)
    have := hunfit n rfl
    omega
  · rintro hnone member value ⟨spec, hspec, hvalue⟩
    cases spec with
    | obj members => exact hnone members hspec
    | _ => simp [Json.get?] at hvalue

end ScalingTrials.Expectation
