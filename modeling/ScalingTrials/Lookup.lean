/-!
Looking up a key in a list of pairs: the first pair is the answer, or it is passed over. From its
end a list is searched likewise: what is appended is the last hit, or it is passed over.
-/

namespace ScalingTrials

theorem lookup_cons_fst {α β : Type} [BEq α] [LawfulBEq α] (e : α × β) (es : List (α × β)) :
    (e :: es).lookup e.1 = some e.2 := by
  cases e
  exact List.lookup_cons_self

theorem lookup_cons_of_ne {α β : Type} [BEq α] [LawfulBEq α] {k : α} {e : α × β} (h : k ≠ e.1)
    (es : List (α × β)) : (e :: es).lookup k = es.lookup k := by
  cases e
  simp [List.lookup_cons, beq_false_of_ne h]

theorem lookup_eq_none_of_notMem {α β : Type} [BEq α] [LawfulBEq α] {k : α} {es : List (α × β)}
    (h : k ∉ es.map Prod.fst) : es.lookup k = none := by
  rw [List.lookup_eq_none_iff]
  intro e he
  have hne : k ≠ e.1 := fun heq => h (List.mem_map.mpr ⟨e, he, heq.symm⟩)
  simpa using hne

/-- Where no key stands twice, each pair is the answer to its key. -/
theorem lookup_of_mem {α β : Type} [BEq α] [LawfulBEq α] {e : α × β} {es : List (α × β)}
    (hnodup : (es.map Prod.fst).Nodup) (he : e ∈ es) : es.lookup e.1 = some e.2 := by
  induction es with
  | nil => exact absurd he List.not_mem_nil
  | cons e' rest ih =>
    rw [List.map_cons, List.nodup_cons] at hnodup
    obtain ⟨hnew, hrest⟩ := hnodup
    rcases List.mem_cons.mp he with rfl | he
    · exact lookup_cons_fst e rest
    · have hne : e.1 ≠ e'.1 := fun heq => hnew (List.mem_map.mpr ⟨e, he, heq⟩)
      rw [lookup_cons_of_ne hne, ih hrest he]

/-- Where no key stands twice, the order makes no difference. -/
theorem lookup_eq_of_perm {α β : Type} [BEq α] [LawfulBEq α] {es fs : List (α × β)}
    (h : es.Perm fs) (hnodup : (fs.map Prod.fst).Nodup) (k : α) : es.lookup k = fs.lookup k := by
  have hkeys : (es.map Prod.fst).Perm (fs.map Prod.fst) := h.map Prod.fst
  by_cases hk : k ∈ es.map Prod.fst
  · obtain ⟨e, he, rfl⟩ := List.mem_map.mp hk
    rw [lookup_of_mem (hkeys.nodup_iff.mpr hnodup) he, lookup_of_mem hnodup (h.mem_iff.mp he)]
  · rw [lookup_eq_none_of_notMem hk, lookup_eq_none_of_notMem (mt hkeys.mem_iff.mpr hk)]

/-- A selection by keys makes no difference to the keys that it keeps. -/
theorem lookup_filter {α β : Type} [BEq α] [LawfulBEq α] {k : α} (p : α → Bool) (hk : p k = true)
    (es : List (α × β)) : (es.filter fun e => p e.1).lookup k = es.lookup k := by
  induction es with
  | nil => rfl
  | cons e rest ih =>
    cases hsame : k == e.1 with
    | true =>
      obtain rfl := eq_of_beq hsame
      rw [List.filter_cons_of_pos (by exact hk), lookup_cons_fst, lookup_cons_fst]
    | false =>
      have hne : k ≠ e.1 := ne_of_beq_false hsame
      rw [lookup_cons_of_ne hne, ← ih]
      cases hp : p e.1 with
      | true => rw [List.filter_cons_of_pos (by exact hp), lookup_cons_of_ne hne]
      | false => rw [List.filter_cons_of_neg (by simp [hp])]

/-- What stands last before others that are passed over: the element that is appended or, where that
one is passed over, what stands last in front of it. -/
theorem exists_last_concat_iff {α : Type} {hit passed : α → Prop} {xs : List α} {x : α} :
    (∃ before y after, xs ++ [x] = before ++ y :: after ∧ hit y ∧ ∀ z ∈ after, passed z) ↔
      hit x ∨ passed x ∧
        ∃ before y after, xs = before ++ y :: after ∧ hit y ∧ ∀ z ∈ after, passed z := by
  constructor
  · rintro ⟨before, y, after, heq, hhit, hpassed⟩
    rcases List.eq_nil_or_concat after with rfl | ⟨init, last, rfl⟩
    · obtain ⟨-, hsame⟩ := List.append_inj' heq rfl
      cases hsame
      exact .inl hhit
    · rw [List.concat_eq_append, ← List.cons_append, ← List.append_assoc] at heq
      obtain ⟨rfl, hsame⟩ := List.append_inj' heq rfl
      cases hsame
      refine .inr ⟨hpassed x (by simp), before, y, init, rfl, hhit, fun z hz => ?_⟩
      exact hpassed z (by simp [hz])
  · rintro (hhit | ⟨hx, before, y, after, rfl, hhit, hpassed⟩)
    · exact ⟨xs, x, [], rfl, hhit, by simp⟩
    · refine ⟨before, y, after ++ [x], by simp, hhit, fun z hz => ?_⟩
      rcases List.mem_append.mp hz with hz | hz
      · exact hpassed z hz
      · rw [List.mem_singleton.mp hz]
        exact hx

end ScalingTrials
