import ScalingTrials.Wire.Resource

/-! # What a resource keeps of a body

The name and the namespace of a resource are those that it was given, whatever its body says. The
other members are those of the body, where its type consists of texts. -/

namespace ScalingTrials

namespace Wire.Resource

variable {members : List (String × Json)} {r : Resource} {name scope : String}

/-! ### Metadata -/

/-- The name in the metadata of a body. -/
def nameOf? (body : Json) : Option String :=
  ((body.get? "metadata").bind fun m => m.get? "name").bind Json.asString?

/-- The namespace in the metadata of a body. -/
def scopeOf? (body : Json) : Option String :=
  ((body.get? "metadata").bind fun m => m.get? "namespace").bind Json.asString?

theorem get?_metadata_toJson (r : Resource) :
    r.toJson.get? "metadata" = some (.obj r.metadata) := by
  cases htype : r.type? with
  | none => simp [toJson, htype, Json.get?]
  | some type => simp [toJson, htype, Json.get?, List.lookup_cons]

theorem nameOf?_named (r : Resource) (name scope : String) :
    nameOf? (r.named name scope).toJson = some name := by
  rw [nameOf?, get?_metadata_toJson]
  simp [named, Json.get?, Json.lookup_setMember, Json.asString?]

theorem scopeOf?_named (r : Resource) (name scope : String) :
    scopeOf? (r.named name scope).toJson = some scope := by
  rw [scopeOf?, get?_metadata_toJson]
  simp [named, Json.get?, Json.lookup_setMember, Json.asString?]

/-! ### The other members -/

/-- Neither part of the type. -/
def isOther (k : String) : Bool := k ≠ "apiVersion" && k ≠ "kind"

theorem isOther_eq_false {k : String} (h : isOther k = false) : k = "apiVersion" ∨ k = "kind" := by
  simp only [isOther, ne_eq, decide_not, Bool.and_eq_false_iff, Bool.not_eq_false',
    decide_eq_true_eq] at h
  exact h

/-- The type that two texts make, if both are there. -/
def typeOf? : Option String → Option String → Option (String × String)
  | some version, some kind => some (version, kind)
  | _, _ => none

/-- A type that consists of texts is taken out of the members, and nothing else. -/
theorem takeType_of_texts (version kind : Option String) (hnodup : (members.map Prod.fst).Nodup)
    (htexts : ∀ m ∈ members, isOther m.1 = false → ∃ s, m.2 = .str s) :
    takeType version kind members =
      (typeOf? (((members.lookup "apiVersion").bind Json.asString?).or version)
        (((members.lookup "kind").bind Json.asString?).or kind),
        members.filter fun m => isOther m.1) := by
  induction members generalizing version kind with
  | nil => cases version <;> cases kind <;> rfl
  | cons m rest ih =>
      obtain ⟨key, j⟩ := m
      rw [List.map_cons, List.nodup_cons] at hnodup
      obtain ⟨hnew, hrest⟩ := hnodup
      have hgone : rest.lookup key = none := lookup_eq_none_of_notMem hnew
      have htext : isOther key = false → ∃ s, j = .str s := htexts (key, j) List.mem_cons_self
      have hih := fun version kind => ih version kind hrest fun m hm =>
        htexts m (List.mem_cons_of_mem _ hm)
      by_cases hversion : key = "apiVersion"
      · subst hversion
        obtain ⟨s, rfl⟩ := htext rfl
        rw [takeType, if_pos rfl, hih]
        simp [hgone, lookup_cons_of_ne, isOther, Json.asString?]
      · by_cases hkind : key = "kind"
        · subst hkind
          obtain ⟨s, rfl⟩ := htext rfl
          rw [takeType, if_neg hversion, if_pos rfl, hih]
          simp [hgone, lookup_cons_of_ne, isOther, Json.asString?]
        · have hother : isOther key = true := by simp [isOther, hversion, hkind]
          unfold takeType
          rw [if_neg hversion, if_neg hkind, hih, lookup_cons_of_ne (Ne.symm hversion),
            lookup_cons_of_ne (Ne.symm hkind), List.filter_cons_of_pos (by exact hother)]

/-- What a body is sent as has its members, apart from the metadata. -/
theorem get?_named_of_ofJson {version kind key : String}
    (hbody : ofJson (.obj members) = .ok r) (hnodup : (members.map Prod.fst).Nodup)
    (hversion : members.lookup "apiVersion" = some (.str version))
    (hkind : members.lookup "kind" = some (.str kind)) (hkey : key ≠ "metadata") :
    (r.named name scope).toJson.get? key = (Json.obj members).get? key := by
  have hkept : ∀ k, k ≠ "metadata" →
      (members.filter fun m => m.1 ≠ "metadata").lookup k = members.lookup k :=
    fun k hk => lookup_filter (fun k => k ≠ "metadata") (by simpa using hk) members
  have hnodup' : ((members.filter fun m => m.1 ≠ "metadata").map Prod.fst).Nodup :=
    hnodup.sublist (List.filter_sublist.map Prod.fst)
  have htexts : ∀ m ∈ members.filter fun m => m.1 ≠ "metadata", isOther m.1 = false →
      ∃ s, m.2 = .str s := by
    intro m hm htype
    have hlookup := lookup_of_mem hnodup (List.mem_filter.mp hm).1
    rcases isOther_eq_false htype with heq | heq
    · rw [heq, hversion] at hlookup
      exact ⟨version, (Option.some.inj hlookup).symm⟩
    · rw [heq, hkind] at hlookup
      exact ⟨kind, (Option.some.inj hlookup).symm⟩
  unfold ofJson at hbody
  dsimp only at hbody
  rw [takeType_of_texts none none hnodup' htexts, hkept _ (by decide), hkept _ (by decide),
    hversion, hkind] at hbody
  cases hmetadata : readMetadata members with
  | error e => simp [hmetadata] at hbody
  | ok metadata =>
      simp only [hmetadata, Except.ok.injEq] at hbody
      subst hbody
      change ((("apiVersion", Json.str version) :: ("kind", Json.str kind) ::
        ("metadata", _) :: _ : List (String × Json)).lookup key) = members.lookup key
      cases hother : isOther key with
      | false =>
          rcases isOther_eq_false hother with rfl | rfl
          · rw [hversion]
            rfl
          · rw [hkind]
            rfl
      | true =>
          have hne : key ≠ "apiVersion" ∧ key ≠ "kind" := by simpa [isOther] using hother
          rw [lookup_cons_of_ne hne.1, lookup_cons_of_ne hne.2, lookup_cons_of_ne hkey,
            ← hkept key hkey]
          exact lookup_filter isOther hother _

end Wire.Resource

end ScalingTrials
