import Mathlib.Data.List.Nodup
import ScalingTrials.Proofs.Expectation
import ScalingTrials.Proofs.Tags.Equality

/-! # What the expectations of tags see

One expectation judges all tags of the user at once, the other a single tag. The first reads the
last tag of a key and the other the first, so they agree where no key stands twice, and there the
order of the tags makes no difference. What neither the cloud nor the controller claims by its
mark and a slash is seen, unless the controller's mark begins it without one. -/

namespace ScalingTrials

namespace Tag

variable {tags : List Tag} {t t' : Tag} {key value : String}

/-! ### Keys that stand once -/

/-- No two tags have the same key. -/
def Distinct (tags : List Tag) : Prop := (tags.map Tag.key).Nodup

instance (tags : List Tag) : Decidable (Distinct tags) :=
  inferInstanceAs (Decidable (tags.map Tag.key).Nodup)

theorem Distinct.eq_of_key_eq (h : Distinct tags) (ht : t ∈ tags) (ht' : t' ∈ tags)
    (hkey : t.key = t'.key) : t = t' :=
  List.inj_on_of_nodup_map h ht ht' hkey

theorem Distinct.perm {tags' : List Tag} (h : Distinct tags) (hperm : tags'.Perm tags) :
    Distinct tags' :=
  (hperm.map Tag.key).nodup_iff.mpr h

/-- Neither before a tag nor behind it is there another of its key. -/
theorem Distinct.key_ne {before after : List Tag} (h : Distinct (before ++ t :: after)) :
    ∀ other ∈ before ++ after, other.key ≠ t.key := by
  rw [Distinct, List.map_append, List.map_cons, List.nodup_middle, List.nodup_cons,
    ← List.map_append] at h
  intro other hother heq
  apply h.1
  rw [← heq]
  exact List.mem_map_of_mem hother

theorem Distinct.lastValue_iff (h : Distinct tags) :
    LastValue tags key value ↔ ∃ t ∈ tags, t.key = key ∧ t.value = value := by
  constructor
  · rintro ⟨before, t, after, rfl, hkey, hvalue, -⟩
    exact ⟨t, by simp, hkey, hvalue⟩
  · rintro ⟨t, ht, rfl, rfl⟩
    obtain ⟨before, after, rfl⟩ := List.append_of_mem ht
    refine ⟨before, t, after, rfl, rfl, rfl, fun other hother => ?_⟩
    exact h.key_ne other (List.mem_append_right before hother)

theorem Distinct.isFirst_iff (h : Distinct tags) :
    Expectation.IsFirst tags key t ↔ t ∈ tags ∧ t.key = key := by
  constructor
  · intro hfirst
    exact ⟨hfirst.mem, hfirst.key_eq⟩
  · rintro ⟨ht, rfl⟩
    obtain ⟨before, after, rfl⟩ := List.append_of_mem ht
    refine ⟨before, after, rfl, rfl, fun other hother => ?_⟩
    exact h.key_ne other (List.mem_append_left after hother)

/-! ### Keys that are reserved -/

/-- Whether a key begins as those of the controller and the cloud are said to begin: the mark of
the controller has a slash behind it. -/
def isReserved (key : String) : Bool := begins cloudMark key || begins (controllerMark ++ "/") key

/-- Of the keys that are not reserved, those that begin with the bare mark count as the system's. -/
theorem isSystem_of_not_isReserved (h : isReserved key = false) :
    isSystem key = begins controllerMark key := by
  rw [isReserved, Bool.or_eq_false_iff] at h
  rw [isSystem, h.1, Bool.false_or]

theorem lastValue?_eq_none_of_new (h : ∀ t ∈ tags, t.key ≠ key) : lastValue? tags key = none := by
  refine Option.eq_none_iff_forall_ne_some.mpr fun value hvalue => ?_
  obtain ⟨before, t, after, rfl, hkey, -⟩ := lastValue?_eq_some_iff.mp hvalue
  exact h t (by simp) hkey

theorem lastValue?_insert {before after : List Tag} (h : ∀ other ∈ after, other.key ≠ t.key) :
    lastValue? (before ++ t :: after) t.key = some t.value :=
  lastValue?_eq_some_iff.mpr ⟨before, t, after, rfl, rfl, rfl, h⟩

/-- A tag whose key is new goes unseen exactly if it counts as one of the system. -/
theorem agree_insert_iff {values : Dictionary} {before after : List Tag}
    (hagree : agree values (before ++ after) = true)
    (hnew : ∀ other ∈ before ++ after, other.key ≠ t.key) :
    agree values (before ++ t :: after) = true ↔ isSystem t.key = true := by
  cases hsystem : isSystem t.key with
  | true =>
      have hedit := SystemEdit.insert values before after hsystem
      have hsame : agree values (before ++ t :: after) = agree values (before ++ after) :=
        agree_congr fun key hkey => hedit.spares hkey
      rw [hsame, hagree]
  | false =>
      have hnone : values.get? t.key = none := by
        rw [agree_iff_lastValue?.mp hagree t.key hsystem, lastValue?_eq_none_of_new hnew]
      have hafter : ∀ other ∈ after, other.key ≠ t.key := fun other hother =>
        hnew other (List.mem_append_right before hother)
      have hne : values.get? t.key ≠ lastValue? (before ++ t :: after) t.key := by
        rw [hnone, lastValue?_insert hafter]
        exact (Option.some_ne_none t.value).symm
      rw [agree_eq_false_of_ne hsystem hne]

end Tag

namespace Expectation

variable {e : Expectation} {g : Group} {resource : Json} {values : Dictionary}
  {key value : String} {propagated : Bool}

theorem check_eq_ok_iff : e.check g resource = .ok () ↔ e.Meets g resource :=
  (judged_check e g resource).ok_iff.trans (meets_iff e g resource).symm

/-! ### Tags that escape -/

theorem check_tags_eq_ok_iff :
    (tags values).check g resource = .ok () ↔
      (∀ key ∈ Tag.requiredKeys, ∃ t ∈ g.tags, t.key = key) ∧ Tag.agree values g.tags = true := by
  rw [check_eq_ok_iff, Meets, Tag.agree_iff]

/-- A group that carries the required tags still does with one tag more. -/
theorem check_tags_insert_iff {before after : List Tag} {t : Tag} (hg : g.tags = before ++ after)
    (hpass : (tags values).check g resource = .ok ()) :
    (tags values).check { g with tags := before ++ t :: after } resource = .ok () ↔
      Tag.agree values (before ++ t :: after) = true := by
  rw [check_tags_eq_ok_iff, and_iff_right_iff_imp]
  rintro - key hkey
  obtain ⟨t', ht', heq⟩ := (check_tags_eq_ok_iff.mp hpass).1 key hkey
  rw [hg, List.mem_append] at ht'
  exact ⟨t', by simp only [List.mem_append, List.mem_cons]; tauto, heq⟩

/-- A tag whose key is new to the group and not reserved makes it fail the expectation of all tags,
unless the key begins with the bare mark of the controller. An expected tag whose key is not
reserved is needed in the group with that value, again unless its key begins so: such an entry may
ask for anything. -/
theorem tags_escape_behind_bare_mark (values : Dictionary) (g : Group) (resource : Json) :
    (∀ t before after, g.tags = before ++ after → (tags values).check g resource = .ok () →
      Tag.isReserved t.key = false → (∀ other ∈ g.tags, other.key ≠ t.key) →
      ((tags values).check { g with tags := before ++ t :: after } resource = .ok () ↔
        Tag.begins Tag.controllerMark t.key = true)) ∧
    (∀ key value, Tag.isReserved key = false → values.get? key = some value →
      Tag.begins Tag.controllerMark key = false → (tags values).check g resource = .ok () →
      Tag.LastValue g.tags key value) ∧
    ∀ key value, Tag.begins Tag.controllerMark key = true →
      ((tags (values.insert key value)).check g resource = .ok () ↔
        (tags values).check g resource = .ok ()) := by
  refine ⟨?_, ?_, ?_⟩
  · intro t before after hg hpass hreserved hnew
    obtain ⟨-, hagree⟩ := check_tags_eq_ok_iff.mp hpass
    rw [hg] at hagree hnew
    rw [check_tags_insert_iff hg hpass, ← Tag.isSystem_of_not_isReserved hreserved]
    exact Tag.agree_insert_iff hagree hnew
  · intro key value hreserved hvalue hmark hpass
    have hsystem : Tag.isSystem key = false := by
      rw [Tag.isSystem_of_not_isReserved hreserved, hmark]
    obtain ⟨-, hagree⟩ := check_tags_eq_ok_iff.mp hpass
    exact (Tag.agree_iff.mp hagree key value hsystem).mp hvalue
  · intro key value hmark
    have hsystem : Tag.isSystem key = true := by rw [Tag.isSystem, hmark, Bool.or_true]
    have hedit := Tag.SystemEdit.expect values g.tags value hsystem
    rw [check_tags_eq_ok_iff, check_tags_eq_ok_iff,
      Tag.agree_congr fun key hkey => hedit.spares hkey]

/-- A tag whose key only resembles those of the controller. -/
def strayTag : Tag := ⟨"services.k8s.awsome", "x", true⟩

/-- A group with just the tags that the controller puts there. -/
def markedGroup : Group :=
  ⟨"group", 0, 2, 0, Tag.requiredKeys.map fun key => ⟨key, "1", false⟩⟩

/-- Nobody reserves the key of a stray tag, and it is not in the group; still the group that gets it
goes on as one without tags of the user. -/
theorem strayTag_escapes :
    (tags .empty).check markedGroup .null = .ok () ∧ Tag.isReserved strayTag.key = false ∧
      (∀ other ∈ markedGroup.tags, other.key ≠ strayTag.key) ∧
      (tags .empty).check { markedGroup with tags := strayTag :: markedGroup.tags } .null =
        .ok () :=
  ⟨rfl, by decide, by decide, rfl⟩

/-! ### The two expectations -/

theorem meets_tags_iff_of_distinct (h : Tag.Distinct g.tags) :
    (tags values).Meets g resource ↔
      (∀ key ∈ Tag.requiredKeys, ∃ t ∈ g.tags, t.key = key) ∧
      ∀ key value, Tag.isSystem key = false →
        (values.get? key = some value ↔ ∃ t ∈ g.tags, t.key = key ∧ t.value = value) := by
  simp only [Meets, h.lastValue_iff]

theorem meets_tag_iff_of_distinct (h : Tag.Distinct g.tags) :
    (tag key value propagated).Meets g resource ↔ ⟨key, value, propagated⟩ ∈ g.tags := by
  rw [Meets, h.isFirst_iff, and_iff_left rfl]

theorem meets_perm {tags' : List Tag} (h : Tag.Distinct g.tags) (hperm : tags'.Perm g.tags) :
    e.Meets { g with tags := tags' } resource ↔ e.Meets g resource := by
  have h' : Tag.Distinct ({ g with tags := tags' } : Group).tags := h.perm hperm
  cases e with
  | matching | desired | bounds => rfl
  | tags values =>
      rw [meets_tags_iff_of_distinct h, meets_tags_iff_of_distinct h']
      simp only [hperm.mem_iff]
  | tag key value propagated =>
      rw [meets_tag_iff_of_distinct h, meets_tag_iff_of_distinct h']
      exact hperm.mem_iff

/-- Where no key stands twice, no expectation depends on the order of the tags. A group that has
just the expected tags of the user passes for each of them alone, for one way in which it may be
propagated and for no other value; and a group that passes for each alone, with no other key of the
user and the required tags, passes for all. -/
theorem tag_expectations_agree (g : Group) (resource : Json) (h : Tag.Distinct g.tags) :
    (∀ tags' e, tags'.Perm g.tags →
      (check e { g with tags := tags' } resource = .ok () ↔ check e g resource = .ok ())) ∧
    (∀ values, (tags values).check g resource = .ok () →
      ∀ key value, Tag.isSystem key = false → values.get? key = some value →
        (∃! propagated, (tag key value propagated).check g resource = .ok ()) ∧
        ∀ other propagated, other ≠ value →
          (tag key other propagated).check g resource ≠ .ok ()) ∧
    (∀ values, (∀ key ∈ Tag.requiredKeys, ∃ t ∈ g.tags, t.key = key) →
      (∀ key, Tag.isSystem key = false →
        ((∃ t ∈ g.tags, t.key = key) ↔ ∃ value, values.get? key = some value)) →
      (∀ key value, Tag.isSystem key = false → values.get? key = some value →
        ∃ propagated, (tag key value propagated).check g resource = .ok ()) →
      (tags values).check g resource = .ok ()) := by
  refine ⟨?_, ?_, ?_⟩
  · intro tags' e hperm
    rw [check_eq_ok_iff, check_eq_ok_iff, meets_perm h hperm]
  · intro values hpass key value hkey hvalue
    rw [check_eq_ok_iff, meets_tags_iff_of_distinct h] at hpass
    obtain ⟨t, ht, rfl, rfl⟩ := (hpass.2 key value hkey).mp hvalue
    have honly : ∀ value propagated, (tag t.key value propagated).check g resource = .ok () →
        (⟨t.key, value, propagated⟩ : Tag) = t := by
      intro value propagated hok
      rw [check_eq_ok_iff, meets_tag_iff_of_distinct h] at hok
      exact h.eq_of_key_eq hok ht rfl
    constructor
    · refine ⟨t.propagated, ?_, fun propagated hok => ?_⟩
      · exact check_eq_ok_iff.mpr ((meets_tag_iff_of_distinct h).mpr ht)
      · exact congrArg Tag.propagated (honly t.value propagated hok)
    · intro other propagated hne hok
      exact hne (congrArg Tag.value (honly other propagated hok))
  · intro values hrequired hkeys hpairs
    rw [check_eq_ok_iff, meets_tags_iff_of_distinct h]
    refine ⟨hrequired, fun key value hkey => ?_⟩
    constructor
    · intro hvalue
      obtain ⟨propagated, hok⟩ := hpairs key value hkey hvalue
      rw [check_eq_ok_iff, meets_tag_iff_of_distinct h] at hok
      exact ⟨_, hok, rfl, rfl⟩
    · rintro ⟨t, ht, rfl, rfl⟩
      obtain ⟨value, hvalue⟩ := (hkeys t.key hkey).mp ⟨t, ht, rfl⟩
      obtain ⟨propagated, hok⟩ := hpairs t.key value hkey hvalue
      rw [check_eq_ok_iff, meets_tag_iff_of_distinct h] at hok
      have hsame := h.eq_of_key_eq hok ht rfl
      rw [hvalue, ← hsame]

/-- A group with a tag of the user behind those of the controller. -/
def ownedGroup : Group :=
  { markedGroup with tags := markedGroup.tags ++ [⟨"team", "blue", true⟩] }

/-- Beside the tag of the user a tag of the cloud is expected, which does not count. -/
def ownedValues : Dictionary := .ofList [("team", "blue"), ("aws:stack", "s")]

/-- The tag of the user passes for itself, so that all tags pass, in the opposite order as well, and
as they do, one way of propagating it passes and no other value. -/
theorem tag_expectations_agree_owned :
    Tag.Distinct ownedGroup.tags ∧
    (tags ownedValues).check { ownedGroup with tags := ownedGroup.tags.reverse } .null = .ok () ∧
    (∃! propagated, (tag "team" "blue" propagated).check ownedGroup .null = .ok ()) ∧
    (tag "team" "red" true).check ownedGroup .null ≠ .ok () := by
  have hdistinct : Tag.Distinct ownedGroup.tags := by decide
  obtain ⟨hperm, hsingle, hall⟩ := tag_expectations_agree ownedGroup .null hdistinct
  have hteam : ∀ key value, Tag.isSystem key = false → ownedValues.get? key = some value →
      key = "team" ∧ value = "blue" := by
    intro key value hkey hvalue
    have hmem : (key, value) ∈ [("aws:stack", "s"), ("team", "blue")] :=
      Dictionary.mem_entries_of_get? hvalue
    have hsystem : Tag.isSystem "aws:stack" = true := by decide
    simp only [List.mem_cons, Prod.mk.injEq, List.not_mem_nil, or_false] at hmem
    rcases hmem with ⟨rfl, -⟩ | hmem
    · exact absurd hkey (by simp [hsystem])
    · exact hmem
  have hpass : (tags ownedValues).check ownedGroup .null = .ok () := by
    refine hall ownedValues (by decide) (fun key hkey => ⟨?_, ?_⟩) ?_
    · rintro ⟨t, ht, rfl⟩
      have hown : ∀ t ∈ ownedGroup.tags, Tag.isSystem t.key = false → t.key = "team" := by decide
      exact ⟨"blue", by rw [hown t ht hkey]; rfl⟩
    · rintro ⟨value, hvalue⟩
      obtain ⟨rfl, rfl⟩ := hteam key value hkey hvalue
      exact ⟨⟨"team", "blue", true⟩, by decide, rfl⟩
    · intro key value hkey hvalue
      obtain ⟨rfl, rfl⟩ := hteam key value hkey hvalue
      exact ⟨true, rfl⟩
  obtain ⟨hone, hother⟩ := hsingle ownedValues hpass "team" "blue" (by decide) rfl
  refine ⟨hdistinct, ?_, hone, hother "red" true (by decide)⟩
  exact (hperm _ (tags ownedValues) (List.reverse_perm _)).mpr hpass

end Expectation

end ScalingTrials
