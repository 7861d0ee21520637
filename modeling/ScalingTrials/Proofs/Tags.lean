import Mathlib.Data.List.Induction
import Mathlib.Data.List.Perm.Subperm
import ScalingTrials.Tag

/-! # The tags of the user

Tags are compared by key once those of the controller and the cloud are left out. On both sides
every key then stands once, so as many entries and each expected one among them make the same
dictionary. -/

namespace ScalingTrials

namespace Dictionary

theorem get?_filter (keep : String → Bool) (d : Dictionary) (k : String) :
    (d.filter fun k _ => keep k).get? k = if keep k then d.get? k else none := by
  cases hk : keep k with
  | true => exact lookup_filter keep hk d.entries
  | false =>
      refine lookup_eq_none_of_notMem fun hmem => ?_
      obtain ⟨e, he, rfl⟩ := List.mem_map.mp hmem
      have hkept : keep e.1 = true := (List.mem_filter.mp he).2
      rw [hk] at hkept
      cases hkept

/-- As every key stands once, one inclusion is enough among dictionaries of one size. -/
theorem eq_of_size_eq {d e : Dictionary} (hsize : d.size = e.size)
    (h : ∀ p ∈ d.entries, e.get? p.1 = some p.2) : d = e := by
  have hsub : d.entries ⊆ e.entries := fun p hp => mem_entries_of_get? (h p hp)
  have hnodup : d.entries.Nodup :=
    d.sorted.imp fun hlt heq => String.ne_of_lt hlt (congrArg Prod.fst heq)
  have hperm : d.entries.Perm e.entries :=
    (List.subperm_of_subset hnodup hsub).perm_of_length_le (Nat.le_of_eq hsize.symm)
  exact ext_get? fun k => lookup_eq_of_perm hperm e.keys_nodup k

end Dictionary

namespace Tag

variable {tags : List Tag} {key value : String}

/-- The last tag with a key has the value. -/
def LastValue (tags : List Tag) (key value : String) : Prop :=
  ∃ before t after, tags = before ++ t :: after ∧ t.key = key ∧ t.value = value ∧
    ∀ other ∈ after, other.key ≠ key

theorem not_lastValue_nil : ¬LastValue [] key value := by
  rintro ⟨before, t, after, heq, -⟩
  simp at heq

theorem lastValue_concat_iff {t : Tag} :
    LastValue (tags ++ [t]) key value ↔
      t.key = key ∧ t.value = value ∨ t.key ≠ key ∧ LastValue tags key value := by
  have hlast := @exists_last_concat_iff Tag (fun t => t.key = key ∧ t.value = value)
    (fun t => t.key ≠ key) tags t
  simpa only [LastValue, and_assoc] using hlast

theorem userValues_concat (t : Tag) :
    userValues (tags ++ [t]) =
      if isSystem t.key then userValues tags else (userValues tags).insert t.key t.value := by
  cases ht : isSystem t.key with
  | true => simp [userValues, ht]
  | false => simp [userValues, ht, Dictionary.ofList, Dictionary.insertAll]

/-- The tags of the user are looked up by the last tag with the key. -/
theorem get?_userValues_iff : (userValues tags).get? key = some value ↔
    isSystem key = false ∧ LastValue tags key value := by
  induction tags using List.reverseRecOn with
  | nil =>
      have hnone : (userValues []).get? key = none := rfl
      simp [hnone, not_lastValue_nil]
  | append_singleton tags t ih =>
      rw [userValues_concat, lastValue_concat_iff]
      cases ht : isSystem t.key with
      | true =>
          rw [if_pos rfl, ih]
          refine and_congr_right fun hkey => ?_
          have hne : t.key ≠ key := fun heq => by simp [← heq, ht] at hkey
          simp [hne]
      | false =>
          rw [if_neg Bool.false_ne_true, Dictionary.get?_insert]
          by_cases hkey : key = t.key
          · simp [hkey, ht]
          · simp [hkey, Ne.symm hkey, ih]

theorem agree_iff_eq {expected : Dictionary} :
    agree expected tags = true ↔
      (expected.filter fun k _ => !isSystem k) = userValues tags := by
  simp only [agree, Bool.and_eq_true, decide_eq_true_eq, List.all_eq_true, beq_iff_eq]
  constructor
  · rintro ⟨hsize, hall⟩
    exact Dictionary.eq_of_size_eq hsize hall
  · intro heq
    rw [← heq]
    exact ⟨rfl, fun e he => Dictionary.get?_of_mem_entries he⟩

/-- The tags of the user are as expected exactly if each key of theirs has its expected value last,
and no other key is among them. -/
theorem agree_iff {expected : Dictionary} :
    agree expected tags = true ↔
      ∀ key value, isSystem key = false →
        (expected.get? key = some value ↔ LastValue tags key value) := by
  have hexpected : ∀ key value,
      (expected.filter fun k _ => !isSystem k).get? key = some value ↔
        isSystem key = false ∧ expected.get? key = some value := by
    intro key value
    rw [Dictionary.get?_filter fun k => !isSystem k]
    cases isSystem key <;> simp
  rw [agree_iff_eq]
  constructor
  · intro heq key value hkey
    have hboth := hexpected key value
    rw [heq, get?_userValues_iff] at hboth
    simpa [hkey] using hboth.symm
  · intro hsame
    refine Dictionary.ext_get? fun key => Option.ext fun value => ?_
    rw [hexpected, get?_userValues_iff]
    exact and_congr_right fun hkey => hsame key value hkey

theorem missingKeys_eq_nil_iff :
    missingKeys tags = [] ↔ ∀ key ∈ requiredKeys, ∃ t ∈ tags, t.key = key := by
  simp [missingKeys, List.filter_eq_nil_iff]

end Tag

end ScalingTrials
