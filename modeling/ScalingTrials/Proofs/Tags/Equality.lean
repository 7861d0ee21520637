import Mathlib.Logic.Relation
import ScalingTrials.Proofs.Tags

/-! # Tags agree exactly if those of the user are the same

Sizes and one inclusion are compared, but what is decided is equality: every key of the user has
the same value on both sides, or none on both. Tags of the system on either side make no
difference, whatever is done to them. -/

namespace ScalingTrials.Tag

variable {tags xs ys : List Tag} {t : Tag} {key value : String} {expected : Dictionary}

/-! ### The value that counts -/

/-- The value of the last tag with a key. -/
def lastValue? (tags : List Tag) (key : String) : Option String :=
  (tags.reverse.find? fun t => t.key = key).map Tag.value

theorem lastValue?_append (xs ys : List Tag) (key : String) :
    lastValue? (xs ++ ys) key = (lastValue? ys key).or (lastValue? xs key) := by
  simp only [lastValue?, List.reverse_append, List.find?_append]
  cases ys.reverse.find? fun t => t.key = key <;> rfl

theorem lastValue?_singleton (t : Tag) (key : String) :
    lastValue? [t] key = if t.key = key then some t.value else none := by
  by_cases h : t.key = key <;> simp [lastValue?, h]

theorem lastValue?_cons (t : Tag) (tags : List Tag) (key : String) :
    lastValue? (t :: tags) key =
      (lastValue? tags key).or (if t.key = key then some t.value else none) := by
  rw [← List.singleton_append, lastValue?_append, lastValue?_singleton]

theorem lastValue?_eq_some_iff : lastValue? tags key = some value ↔ LastValue tags key value := by
  induction tags using List.reverseRecOn with
  | nil => simp [lastValue?, not_lastValue_nil]
  | append_singleton tags t ih =>
      rw [lastValue?_append, lastValue?_singleton, lastValue_concat_iff, ← ih]
      by_cases h : t.key = key <;> simp [h]

theorem agree_iff_lastValue? :
    agree expected tags = true ↔
      ∀ key, isSystem key = false → expected.get? key = lastValue? tags key := by
  rw [agree_iff]
  constructor
  · intro h key hkey
    refine Option.ext fun value => ?_
    rw [h key value hkey, lastValue?_eq_some_iff]
  · intro h key value hkey
    rw [h key hkey, lastValue?_eq_some_iff]

/-! ### Changes to tags of the system -/

/-- One change to a tag of the system, among the expected ones or in a list: it comes in, goes,
gets another value, or changes places with its neighbour. -/
inductive SystemEdit : Dictionary × List Tag → Dictionary × List Tag → Prop where
  | expect (values : Dictionary) (tags : List Tag) {key : String} (value : String) :
      isSystem key = true → SystemEdit (values, tags) (values.insert key value, tags)
  | unexpect (values : Dictionary) (tags : List Tag) {key : String} :
      isSystem key = true → SystemEdit (values, tags) (values.filter fun k _ => k ≠ key, tags)
  | insert (values : Dictionary) (before after : List Tag) {t : Tag} :
      isSystem t.key = true → SystemEdit (values, before ++ after) (values, before ++ t :: after)
  | remove (values : Dictionary) (before after : List Tag) {t : Tag} :
      isSystem t.key = true → SystemEdit (values, before ++ t :: after) (values, before ++ after)
  | revalue (values : Dictionary) (before after : List Tag) {t : Tag} (value : String)
      (propagated : Bool) : isSystem t.key = true →
      SystemEdit (values, before ++ t :: after)
        (values, before ++ ⟨t.key, value, propagated⟩ :: after)
  | swap (values : Dictionary) (before after : List Tag) {t t' : Tag} :
      isSystem t.key = true ∨ isSystem t'.key = true →
      SystemEdit (values, before ++ t :: t' :: after) (values, before ++ t' :: t :: after)

variable {p p' : Dictionary × List Tag}

theorem ne_of_isSystem {k k' : String} (hk : isSystem k = true) (hk' : isSystem k' = false) :
    k ≠ k' := by
  rintro rfl
  simp [hk] at hk'

/-- One change leaves alone what is expected and what counts under each key of the user. -/
theorem SystemEdit.spares (h : SystemEdit p p') (hkey : isSystem key = false) :
    p'.1.get? key = p.1.get? key ∧ lastValue? p'.2 key = lastValue? p.2 key := by
  cases h with
  | expect values tags value hsystem =>
      exact ⟨by rw [Dictionary.get?_insert, if_neg (ne_of_isSystem hsystem hkey).symm], rfl⟩
  | @unexpect values tags gone hsystem =>
      have hne : key ≠ gone := (ne_of_isSystem hsystem hkey).symm
      refine ⟨?_, rfl⟩
      rw [Dictionary.get?_filter (fun k => decide (k ≠ gone)), if_pos (decide_eq_true hne)]
  | insert values before after hsystem | remove values before after hsystem =>
      simp [lastValue?_append, lastValue?_cons, ne_of_isSystem hsystem hkey]
  | revalue values before after value propagated hsystem =>
      simp [lastValue?_append, lastValue?_cons, ne_of_isSystem hsystem hkey]
  | swap values before after hsystem =>
      rcases hsystem with hsystem | hsystem <;>
        simp [lastValue?_append, lastValue?_cons, ne_of_isSystem hsystem hkey]

/-- However many changes there were, nothing has happened to the keys of the user. -/
theorem spares_of_edits (h : Relation.ReflTransGen SystemEdit p p') (hkey : isSystem key = false) :
    p'.1.get? key = p.1.get? key ∧ lastValue? p'.2 key = lastValue? p.2 key := by
  induction h with
  | refl => exact ⟨rfl, rfl⟩
  | tail _ hedit ih =>
      obtain ⟨hvalues, htags⟩ := hedit.spares hkey
      exact ⟨hvalues.trans ih.1, htags.trans ih.2⟩

/-! ### The verdict -/

theorem agree_congr {values : Dictionary} (h : ∀ key, isSystem key = false →
    values.get? key = expected.get? key ∧ lastValue? ys key = lastValue? xs key) :
    agree values ys = agree expected xs := by
  rw [Bool.eq_iff_iff, agree_iff_lastValue?, agree_iff_lastValue?]
  refine forall_congr' fun key => imp_congr_right fun hkey => ?_
  rw [(h key hkey).1, (h key hkey).2]

theorem agree_eq_false_of_ne (hkey : isSystem key = false)
    (hne : expected.get? key ≠ lastValue? tags key) : agree expected tags = false := by
  rw [Bool.eq_false_iff]
  intro h
  exact hne (agree_iff_lastValue?.mp h key hkey)

/-- The tags of the user are found to be the expected ones exactly if under every key of theirs the
same value counts, or none. So changes to tags of the system are never seen, two lists that are
found to be as expected agree under every such key, and another value under a single one, or
none, is always seen. -/
theorem agree_decides_equality (expected : Dictionary) (tags : List Tag) :
    (agree expected tags = true ↔
      ∀ key, isSystem key = false → expected.get? key = lastValue? tags key) ∧
    (∀ expected' tags',
      Relation.ReflTransGen SystemEdit (expected, tags) (expected', tags') →
      agree expected' tags' = agree expected tags) ∧
    (∀ tags', agree expected tags = true → agree expected tags' = true →
      ∀ key, isSystem key = false → lastValue? tags key = lastValue? tags' key) ∧
    (agree expected tags = true → ∀ key, isSystem key = false →
      (∀ tags', lastValue? tags' key ≠ lastValue? tags key → agree expected tags' = false) ∧
      ∀ expected', expected'.get? key ≠ expected.get? key → agree expected' tags = false) := by
  refine ⟨agree_iff_lastValue?, ?_, ?_, ?_⟩
  · intro expected' tags' hedits
    exact agree_congr fun key hkey => spares_of_edits hedits hkey
  · intro tags' h h' key hkey
    rw [← agree_iff_lastValue?.mp h key hkey, agree_iff_lastValue?.mp h' key hkey]
  · intro h key hkey
    have hsame : expected.get? key = lastValue? tags key := agree_iff_lastValue?.mp h key hkey
    constructor
    · intro tags' hne
      apply agree_eq_false_of_ne hkey
      rw [hsame]
      exact hne.symm
    · intro expected' hne
      apply agree_eq_false_of_ne hkey
      rw [← hsame]
      exact hne

end ScalingTrials.Tag
