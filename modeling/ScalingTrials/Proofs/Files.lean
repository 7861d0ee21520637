import ScalingTrials.Files

/-! # What the operations on files leave alone

Replacing a node that is no directory keeps every way open, so a path leads to
the same location before and after. Making directories only fills empty places. -/

namespace ScalingTrials.Files

theorem fromUTF8?_toUTF8 (s : String) : String.fromUTF8? s.toUTF8 = some s := by
  have hvalid : s.toUTF8.IsValidUTF8 := s.isValidUTF8
  rw [String.fromUTF8?, dif_pos hvalid]
  rfl

/-! ### Ways through a tree -/

variable {fs fs' : Files} {l m : Location} {path : String}

theorem ne_nil_of_at?_ne_directory (h : fs.at? l ≠ some .directory) : l ≠ [] := by
  rintro rfl
  exact h rfl

theorem step_set (hl : fs.at? l ≠ some .directory) (n : Option Node) {name : String}
    {k : Location} (h : fs.step k name = .ok m) : (fs.set l n).step k name = .ok m := by
  have hk : fs.at? k = some .directory := by
    unfold step at h
    cases hk : fs.at? k with
    | none => simp [hk] at h
    | some node =>
        cases node with
        | file content => simp [hk] at h
        | directory => rfl
  have hne : k ≠ l := by
    rintro rfl
    exact hl hk
  have hsame : (fs.set l n).at? k = fs.at? k := at?_set_of_ne hne n
  unfold step at h ⊢
  rw [hsame]
  exact h

theorem walk_set (hl : fs.at? l ≠ some .directory) (n : Option Node) {names : List String}
    {k : Location} (h : fs.walk k names = .ok m) : (fs.set l n).walk k names = .ok m := by
  induction names generalizing k with
  | nil => exact h
  | cons name rest ih =>
      rw [walk] at h ⊢
      cases hstep : fs.step k name with
      | error e => simp [hstep] at h
      | ok next =>
          rw [hstep] at h
          rw [step_set hl n hstep]
          exact ih h

/-- A path leads where it led before a node that is no directory was replaced. -/
theorem locate_set (hl : fs.at? l ≠ some .directory) (n : Option Node)
    (h : fs.locate path = .ok m) : (fs.set l n).locate path = .ok m := by
  have hroute : (fs.set l n).route path = fs.route path := rfl
  unfold locate at h ⊢
  rw [hroute]
  cases hr : fs.route path with
  | error e => simp [hr] at h
  | ok r =>
      rw [hr] at h
      exact walk_set hl n h

/-! ### Reading, writing and removing -/

theorem writeText_eq_ok {text : String} (h : fs.writeText path text = .ok fs') :
    ∃ l, fs.locate path = .ok l ∧ fs.at? l ≠ some .directory ∧ fs.refusal? .write l = none ∧
      fs' = fs.set l (some (.file text.toUTF8)) := by
  unfold writeText write at h
  cases hl : fs.locate path with
  | error e => simp [hl] at h
  | ok l =>
      simp only [hl] at h
      refine ⟨l, rfl, ?_⟩
      split at h
      · cases h
      · next hnode =>
          cases hwrite : fs.refusal? .write l with
          | some r => simp [hwrite] at h
          | none =>
              simp only [hwrite, Except.ok.injEq] at h
              exact ⟨hnode, rfl, h.symm⟩

theorem readText_eq_ok {text : String} (h : fs.readText path = .ok text) :
    ∃ l content, fs.locate path = .ok l ∧ fs.at? l = some (.file content) ∧
      String.fromUTF8? content = some text := by
  unfold readText read at h
  cases hl : fs.locate path with
  | error e => simp [hl] at h
  | ok l =>
      simp only [hl] at h
      cases hnode : fs.at? l with
      | none => simp [hnode] at h
      | some node =>
          cases node with
          | directory => simp [hnode] at h
          | file content =>
              simp only [hnode] at h
              cases hread : fs.refusal? .read l with
              | some r => simp [hread] at h
              | none =>
                  simp only [hread] at h
                  cases htext : String.fromUTF8? content with
                  | none => simp [htext] at h
                  | some t =>
                      simp only [htext, Except.ok.injEq] at h
                      exact ⟨l, content, rfl, hnode, h ▸ htext⟩

/-- A text that was written is read back. -/
theorem readText_of_at? {text : String} (hl : fs.locate path = .ok l)
    (hnode : fs.at? l = some (.file text.toUTF8)) (hread : fs.refusal? .read l = none) :
    fs.readText path = .ok text := by
  simp only [readText, read, hl, hnode, hread, fromUTF8?_toUTF8]

theorem readText_of_writeText {text : String} (h : fs.writeText path text = .ok fs') :
    fs'.readText path = .ok text := by
  obtain ⟨l, hlocate, hnode, hwrite, rfl⟩ := writeText_eq_ok h
  have hfile : (fs.set l (some (.file text.toUTF8))).at? l = some (.file text.toUTF8) :=
    at?_set_self (ne_nil_of_at?_ne_directory hnode) _
  exact readText_of_at? (locate_set hnode _ hlocate) hfile (fs.readable l hwrite)

/-- How the removal of a file at a path can go: nothing stands there any more, or the system refuses
to take the file away and all stays as it was. -/
inductive Removal (fs : Files) (path : String) : Except Failure Files → Prop where
  | done {l : Location} : fs.locate path = .ok l → fs.refusal? .remove l = none →
      (fs.set l none).present path = false → Removal fs path (.ok (fs.set l none))
  | refused {l : Location} {r : Refusal} : fs.locate path = .ok l →
      fs.refusal? .remove l = some r → Removal fs path (.error (.refused r))

/-- Nothing but a refusal by the system keeps a file that can be read from being removed. -/
theorem removal_of_readText {text : String} (h : fs.readText path = .ok text) :
    Removal fs path (fs.remove path) := by
  obtain ⟨l, content, hlocate, hnode, -⟩ := readText_eq_ok h
  cases hremove : fs.refusal? .remove l with
  | some r =>
      have hresult : fs.remove path = .error (.refused r) := by
        simp [remove, hlocate, hnode, hremove]
      rw [hresult]
      exact .refused hlocate hremove
  | none =>
      have hresult : fs.remove path = .ok (fs.set l none) := by
        simp [remove, hlocate, hnode, hremove]
      have hfile : fs.at? l ≠ some .directory := by simp [hnode]
      have hgone : (fs.set l none).at? l = none :=
        at?_set_self (ne_nil_of_at?_ne_directory hfile) none
      rw [hresult]
      refine .done hlocate hremove ?_
      simp [present, locate_set hfile none hlocate, hgone]

theorem present_of_readText {text : String} (h : fs.readText path = .ok text) :
    fs.present path = true := by
  obtain ⟨l, content, hlocate, hnode, -⟩ := readText_eq_ok h
  simp [present, hlocate, hnode]

/-! ### Making directories -/

/-- A tree to which nothing but directories was added, each in an empty place. -/
structure Grown (fs fs' : Files) : Prop where
  here : fs'.here = fs.here
  refusals : fs'.refusal? = fs.refusal?
  node : ∀ l, fs'.at? l = fs.at? l ∨ fs.at? l = none ∧ fs'.at? l = some .directory

theorem Grown.refl (fs : Files) : Grown fs fs := ⟨rfl, rfl, fun _ => .inl rfl⟩

theorem Grown.trans {fs'' : Files} (h : Grown fs fs') (h' : Grown fs' fs'') : Grown fs fs'' := by
  refine ⟨h'.here.trans h.here, h'.refusals.trans h.refusals, fun l => ?_⟩
  rcases h.node l with hsame | ⟨hnone, hdir⟩ <;> rcases h'.node l with hsame' | ⟨hnone', hdir'⟩
  · exact .inl (hsame'.trans hsame)
  · exact .inr ⟨hsame.symm.trans hnone', hdir'⟩
  · exact .inr ⟨hnone, hsame'.trans hdir⟩
  · exact .inr ⟨hnone, hdir'⟩

theorem Grown.file_iff (h : Grown fs fs') (l : Location) (content : ByteArray) :
    fs'.at? l = some (.file content) ↔ fs.at? l = some (.file content) := by
  rcases h.node l with hsame | ⟨hnone, hdir⟩
  · rw [hsame]
  · simp [hnone, hdir]

theorem grown_set (h : fs.at? l = none) : Grown fs (fs.set l (some .directory)) := by
  refine ⟨rfl, rfl, fun m => ?_⟩
  by_cases hm : m = l
  · subst hm
    have hdir : fs.at? m ≠ some .directory := by simp [h]
    have hne : m ≠ [] := ne_nil_of_at?_ne_directory hdir
    exact .inr ⟨h, at?_set_self hne _⟩
  · exact .inl (at?_set_of_ne hm _)

theorem makeAt_grown {start : Location} {back : List String}
    (h : fs.makeAt start back = .ok fs') : Grown fs fs' := by
  cases back with
  | nil => simp [makeAt] at h
  | cons name before =>
      simp only [makeAt] at h
      split at h
      · cases h
      · split at h
        · cases h
        · split at h
          · cases h
          · split at h
            · cases h
            · next hnone =>
                split at h
                · cases h
                · cases h
                  exact grown_set hnone

theorem makeAllAt_grown (fs : Files) (start : Location) (back : List String) :
    Grown fs (fs.makeAllAt start back).2 := by
  fun_induction makeAllAt fs start back with
  | case1 => exact .refl fs
  | case2 name back made hmade => exact makeAt_grown hmade
  | case3 name back _ e above habove ih =>
      rw [habove] at ih
      exact ih
  | case4 name back _ above habove made hmade ih =>
      rw [habove] at ih
      exact ih.trans (makeAt_grown hmade)
  | case5 name back _ above habove e _ _ ih =>
      rw [habove] at ih
      exact ih
  | case6 name back _ above habove e _ _ ih =>
      rw [habove] at ih
      exact ih
  | case7 => exact .refl fs
  | case8 => exact .refl fs

theorem makeAll_grown (fs : Files) (path : String) : Grown fs (fs.makeAll path).2 := by
  unfold makeAll
  split
  · exact .refl fs
  · split
    · exact .refl fs
    · exact makeAllAt_grown fs _ _

end ScalingTrials.Files
