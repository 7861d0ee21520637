import ScalingTrials.Lookup

/-!
Texts by text key. The entries stay in ascending order of their keys, so a dictionary is determined
by what is looked up in it. Main statements: looking up after an insertion, and extensionality.
-/

namespace ScalingTrials

/-- Text values by text key, ascending in the key. -/
structure Dictionary where
  entries : List (String × String)
  sorted : entries.Pairwise (fun a b => a.1 < b.1)
  deriving DecidableEq

namespace Dictionary

/-- Sets the value of a key in ascending entries. -/
def insertEntry (k v : String) : List (String × String) → List (String × String)
  | [] => [(k, v)]
  | e :: rest =>
    if k < e.1 then (k, v) :: e :: rest
    else if k = e.1 then (k, v) :: rest
    else e :: insertEntry k v rest

theorem fst_of_mem_insertEntry {k v : String} {es : List (String × String)} {e : String × String}
    (h : e ∈ insertEntry k v es) : e.1 = k ∨ e ∈ es := by
  induction es with
  | nil => simp [insertEntry] at h; simp [h]
  | cons e' rest ih =>
    simp only [insertEntry] at h
    split at h
    · rcases List.mem_cons.1 h with rfl | h <;> simp_all
    · split at h
      · rcases List.mem_cons.1 h with rfl | h <;> simp_all
      · rcases List.mem_cons.1 h with rfl | h
        · simp
        · rcases ih h with h | h <;> simp [h]

theorem lt_of_not_lt_of_ne {a b : String} (h : ¬a < b) (hne : a ≠ b) : b < a := by
  have hle : b ≤ a := String.not_lt.1 h
  exact Classical.byContradiction fun hlt =>
    hne (String.le_antisymm (String.not_lt.1 hlt) hle)

theorem sorted_insertEntry {k v : String} {es : List (String × String)}
    (h : es.Pairwise (fun a b => a.1 < b.1)) :
    (insertEntry k v es).Pairwise (fun a b => a.1 < b.1) := by
  induction es with
  | nil => simp [insertEntry]
  | cons e rest ih =>
    obtain ⟨he, hr⟩ := List.pairwise_cons.1 h
    simp only [insertEntry]
    split
    · next hk =>
      refine List.pairwise_cons.2 ⟨fun b hb => ?_, h⟩
      rcases List.mem_cons.1 hb with rfl | hb
      · exact hk
      · exact String.lt_trans hk (he b hb)
    · next hk =>
      split
      · next heq => exact List.pairwise_cons.2 ⟨fun b hb => heq ▸ he b hb, hr⟩
      · next hne =>
        refine List.pairwise_cons.2 ⟨fun b hb => ?_, ih hr⟩
        rcases fst_of_mem_insertEntry hb with hb | hb
        · rw [hb]
          exact lt_of_not_lt_of_ne hk hne
        · exact he b hb

def empty : Dictionary := ⟨[], .nil⟩

def insert (d : Dictionary) (k v : String) : Dictionary :=
  ⟨insertEntry k v d.entries, sorted_insertEntry d.sorted⟩

/-- Inserts pairs in order, so that the last value of a key stays. -/
def insertAll (d : Dictionary) (pairs : List (String × String)) : Dictionary :=
  pairs.foldl (fun d p => d.insert p.1 p.2) d

def ofList (pairs : List (String × String)) : Dictionary := empty.insertAll pairs

def get? (d : Dictionary) (k : String) : Option String := d.entries.lookup k

def size (d : Dictionary) : Nat := d.entries.length

/-- The entries whose key and value pass a test. -/
def filter (keep : String → String → Bool) (d : Dictionary) : Dictionary :=
  ⟨d.entries.filter fun e => keep e.1 e.2, d.sorted.filter _⟩

theorem lookup_insertEntry (k v k' : String) (es : List (String × String)) :
    (insertEntry k v es).lookup k' = if k' = k then some v else es.lookup k' := by
  induction es with
  | nil => by_cases h : k' = k <;> simp [insertEntry, List.lookup_cons, h, beq_false_of_ne]
  | cons e rest ih =>
    simp only [insertEntry]
    split
    · by_cases h : k' = k <;> simp [List.lookup_cons, h, beq_false_of_ne]
    · split
      · next heq =>
        by_cases h : k' = k
        · simp [h]
        · rw [if_neg h, lookup_cons_of_ne h, lookup_cons_of_ne (heq ▸ h)]
      · next hne =>
        by_cases h : k' = e.1
        · rw [h, lookup_cons_fst, lookup_cons_fst, if_neg (Ne.symm hne)]
        · rw [lookup_cons_of_ne h, lookup_cons_of_ne h, ih]

@[simp] theorem get?_empty (k : String) : empty.get? k = none := rfl

theorem get?_insert (d : Dictionary) (k v k' : String) :
    (d.insert k v).get? k' = if k' = k then some v else d.get? k' :=
  lookup_insertEntry k v k' d.entries

theorem lookup_eq_none_of_forall_lt {k : String} {es : List (String × String)}
    (h : ∀ e ∈ es, k < e.1) : es.lookup k = none := by
  induction es with
  | nil => rfl
  | cons e rest ih =>
    have hne : k ≠ e.1 := fun hk => String.lt_irrefl _ (hk ▸ h e (by simp))
    rw [lookup_cons_of_ne hne, ih fun e' he' => h e' (List.mem_cons_of_mem _ he')]

theorem entries_eq_of_lookup {es fs : List (String × String)}
    (hes : es.Pairwise (fun a b => a.1 < b.1)) (hfs : fs.Pairwise (fun a b => a.1 < b.1))
    (h : ∀ k, es.lookup k = fs.lookup k) : es = fs := by
  induction es generalizing fs with
  | nil =>
    cases fs with
    | nil => rfl
    | cons f fs => exact absurd (h f.1) (by simp [lookup_cons_fst])
  | cons e es ih =>
    cases fs with
    | nil => exact absurd (h e.1) (by simp [lookup_cons_fst])
    | cons f fs =>
      obtain ⟨he, hes⟩ := List.pairwise_cons.1 hes
      obtain ⟨hf, hfs⟩ := List.pairwise_cons.1 hfs
      have hkey : e.1 = f.1 := by
        refine Classical.byContradiction fun hne => ?_
        by_cases hlt : e.1 < f.1
        · have := h e.1
          have hnone : (f :: fs).lookup e.1 = none := by
            refine lookup_eq_none_of_forall_lt fun e' he' => ?_
            rcases List.mem_cons.1 he' with rfl | he'
            · exact hlt
            · exact String.lt_trans hlt (hf e' he')
          rw [hnone, lookup_cons_fst] at this
          cases this
        · have hgt := lt_of_not_lt_of_ne hlt hne
          have := h f.1
          have hnone : (e :: es).lookup f.1 = none := by
            refine lookup_eq_none_of_forall_lt fun e' he' => ?_
            rcases List.mem_cons.1 he' with rfl | he'
            · exact hgt
            · exact String.lt_trans hgt (he e' he')
          rw [hnone, lookup_cons_fst] at this
          cases this
      have hval : e.2 = f.2 := by
        have := h e.1
        rw [lookup_cons_fst, hkey, lookup_cons_fst] at this
        exact Option.some.inj this
      have htail : es = fs := by
        refine ih hes hfs fun k => ?_
        by_cases hk : k = e.1
        · rw [hk, lookup_eq_none_of_forall_lt he, hkey, lookup_eq_none_of_forall_lt hf]
        · have := h k
          rwa [lookup_cons_of_ne hk, lookup_cons_of_ne (hkey ▸ hk)] at this
      rw [htail, Prod.ext hkey hval]

/-- Dictionaries with the same look-ups are the same. -/
theorem ext_get? {d e : Dictionary} (h : ∀ k, d.get? k = e.get? k) : d = e := by
  cases d with
  | mk es hes =>
    cases e with
    | mk fs hfs => congr; exact entries_eq_of_lookup hes hfs h

theorem insertEntry_of_forall_lt {k v : String} {es : List (String × String)}
    (h : ∀ e ∈ es, e.1 < k) : insertEntry k v es = es ++ [(k, v)] := by
  induction es with
  | nil => rfl
  | cons e es ih =>
      have he : e.1 < k := h e (by simp)
      have hge : ¬k < e.1 := String.lt_asymm he
      have hne : k ≠ e.1 := fun heq => String.lt_irrefl _ (heq ▸ he)
      simp [insertEntry, hge, hne, ih fun d hd => h d (by simp [hd])]

theorem entries_insertAll {es : List (String × String)} (hes : es.Pairwise fun a b => a.1 < b.1)
    {d : Dictionary} (hd : ∀ a ∈ d.entries, ∀ e ∈ es, a.1 < e.1) :
    (d.insertAll es).entries = d.entries ++ es := by
  induction es generalizing d with
  | nil => simp [insertAll]
  | cons e es ih =>
      obtain ⟨he, hes⟩ := List.pairwise_cons.mp hes
      have hinsert : (d.insert e.1 e.2).entries = d.entries ++ [e] :=
        insertEntry_of_forall_lt fun a ha => hd a ha e (by simp)
      have hrest := ih hes (d := d.insert e.1 e.2) (by
        rw [hinsert]
        intro a ha f hf
        rcases List.mem_append.mp ha with ha | ha
        · exact hd a ha f (by simp [hf])
        · rw [List.mem_singleton.mp ha]
          exact he f hf)
      rw [hinsert] at hrest
      simpa [insertAll] using hrest

/-- A dictionary is made again from its entries. -/
theorem insertAll_entries (d : Dictionary) : empty.insertAll d.entries = d := by
  have hentries := entries_insertAll d.sorted (d := empty) (by simp [empty])
  cases h : empty.insertAll d.entries
  rw [h] at hentries
  cases d
  simpa [empty] using hentries

theorem keys_nodup (d : Dictionary) : (d.entries.map Prod.fst).Nodup :=
  List.pairwise_map.mpr (d.sorted.imp fun h => String.ne_of_lt h)

theorem get?_eq_none_iff {d : Dictionary} {k : String} :
    d.get? k = none ↔ k ∉ d.entries.map Prod.fst := by
  refine ⟨fun h hk => ?_, lookup_eq_none_of_notMem⟩
  obtain ⟨e, he, rfl⟩ := List.mem_map.mp hk
  rw [get?, lookup_of_mem d.keys_nodup he] at h
  cases h

theorem mem_entries_of_get? {d : Dictionary} {k v : String} (h : d.get? k = some v) :
    (k, v) ∈ d.entries := by
  obtain ⟨before, after, heq, -⟩ := List.lookup_eq_some_iff.mp h
  rw [heq]
  exact List.mem_append_right before List.mem_cons_self

theorem get?_of_mem_entries {d : Dictionary} {e : String × String} (h : e ∈ d.entries) :
    d.get? e.1 = some e.2 :=
  lookup_of_mem d.keys_nodup h

theorem get?_eq_some_iff {d : Dictionary} {k v : String} :
    d.get? k = some v ↔ (k, v) ∈ d.entries :=
  ⟨mem_entries_of_get?, get?_of_mem_entries⟩

/-- Pairs of distinct keys take the place of what stood under their keys. -/
theorem get?_insertAll {es : List (String × String)} (hnodup : (es.map Prod.fst).Nodup)
    (d : Dictionary) (k : String) : (d.insertAll es).get? k = (es.lookup k).or (d.get? k) := by
  induction es generalizing d with
  | nil => rfl
  | cons e es ih =>
      rw [List.map_cons, List.nodup_cons] at hnodup
      obtain ⟨hnew, hnodup⟩ := hnodup
      have hcons : d.insertAll (e :: es) = (d.insert e.1 e.2).insertAll es := rfl
      rw [hcons, ih hnodup, get?_insert]
      by_cases hk : k = e.1
      · rw [if_pos hk, hk, lookup_cons_fst, lookup_eq_none_of_notMem hnew]
        rfl
      · rw [if_neg hk, lookup_cons_of_ne hk]

/-- The entries of a dictionary, in any order, take the place of all others with these keys. A key
that is not among them keeps its value. -/
theorem insert_insertAll {d e : Dictionary} {es : List (String × String)}
    (hes : es.Perm d.entries) (hkeys : e.entries.map Prod.fst = d.entries.map Prod.fst)
    {k : String} (hk : k ∉ d.entries.map Prod.fst) (v : String) :
    (e.insert k v).insertAll es = d.insert k v := by
  refine ext_get? fun k' => ?_
  have hnodup : (es.map Prod.fst).Nodup := (hes.map Prod.fst).nodup_iff.mpr d.keys_nodup
  have hlookup : es.lookup k' = d.get? k' := lookup_eq_of_perm hes d.keys_nodup k'
  rw [get?_insertAll hnodup, hlookup, get?_insert, get?_insert]
  by_cases hk' : k' = k
  · rw [if_pos hk', if_pos hk', hk', get?_eq_none_iff.mpr hk]
    rfl
  · rw [if_neg hk', if_neg hk']
    cases hgot : d.get? k' with
    | some v => rfl
    | none =>
      rw [get?_eq_none_iff, ← hkeys, ← get?_eq_none_iff] at hgot
      exact hgot

end Dictionary

end ScalingTrials
