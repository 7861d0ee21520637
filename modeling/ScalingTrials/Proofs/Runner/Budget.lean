import ScalingTrials.Proofs.Runner.Fixture
import ScalingTrials.Proofs.Runner.Lagging

/-! # The budgets of the trials

What each trial changes is something that the controller can go along with, so the lag of
the controller alone decides which trials succeed. -/

namespace ScalingTrials.Runner

open Manifest (IsInert groupBody groupSpec shipped valueFor)
open World (Asks ownTags project)

variable {scope name templateId version subnets : String} {tags : List Tag} {t : Trial}

/-! ### The tags of the controller -/

theorem missingKeys_ownTags (scope : String) (tags : List Tag) :
    Tag.missingKeys (ownTags scope ++ tags) = [] := by
  simp [Tag.missingKeys, Tag.requiredKeys, ownTags]

theorem userValues_ownTags (scope : String) (tags : List Tag) :
    Tag.userValues (ownTags scope ++ tags) = Tag.userValues tags := by
  have hversion : Tag.isSystem Tag.controllerVersionKey = true := by decide
  have hnamespace : Tag.isSystem Tag.namespaceKey = true := by decide
  simp [Tag.userValues, ownTags, hversion, hnamespace]

/-- The controller's own tags are there as required, and do not count among the user's. -/
theorem check_tags {values : Dictionary} (h : Tag.agree values tags = true) {g : Group}
    (hg : g.tags = ownTags scope ++ tags) (resource : Json) :
    (Expectation.tags values).check g resource = .ok () := by
  have hagree : Tag.agree values g.tags = true := by
    rwa [hg, Tag.agree, userValues_ownTags]
  rw [Expectation.check, hg, missingKeys_ownTags, ← hg]
  simp only [hagree, if_true]

/-! ### The steps of the trials -/

/-- The group of a resource that was made from the shipped manifest, with tags of the user. -/
def madeGroup (scope name : String) (tags : List Tag) : Group :=
  ⟨name, 0, 2, 0, ownTags scope ++ tags⟩

theorem check_matching : Expectation.matching.check (madeGroup scope name [])
    (asking (groupSpec name templateId version subnets)) = .ok () := by
  have hnamed : Expectation.checkName (Expectation.specifiedName?
      (asking (groupSpec name templateId version subnets))) name = .ok () := if_pos rfl
  rw [Expectation.check, madeGroup, hnamed]
  rfl

theorem planned_steps (t : Trial) : Planned scope name (groupSpec name templateId version subnets)
    (madeGroup scope name []) t.steps := by
  cases t with
  | createDelete => exact .rest rfl (by decide) check_matching .done
  | delete => exact .rest rfl (by decide) check_matching .done
  | updateCapacity =>
      refine .rest rfl (by decide) check_matching ?_
      exact .change ⟨name, 0, 2, 2, ownTags scope⟩ rfl rfl rfl rfl .done
  | updateBounds =>
      refine .rest rfl (by decide) check_matching ?_
      exact .change ⟨name, 1, 5, 1, ownTags scope⟩ rfl rfl rfl rfl .done
  | changeTags =>
      refine .rest rfl (by decide) check_matching ?_
      refine .rest rfl (by decide) check_matching ?_
      refine .change (madeGroup scope name [⟨Trial.tagKey, "new-tag-value-1", true⟩]) rfl rfl rfl
        (check_tags (by decide) rfl _) ?_
      refine .change (madeGroup scope name [⟨Trial.tagKey, "new-tag-value-2", true⟩]) rfl rfl rfl
        (check_tags (by decide) rfl _) ?_
      refine .change (madeGroup scope name [⟨Trial.tagKey, "new-tag-value-2", false⟩]) rfl rfl rfl
        rfl ?_
      exact .change (madeGroup scope name []) rfl rfl rfl (check_tags (by decide) rfl _) .done

/-! ### The verdicts -/

/-- Whether a controller is quick enough for a trial: it takes a change over at the reading
behind `s` others, and a group disappears at the description behind `l` others. -/
def InBudget (s l : Nat) : Trial → Prop
  | .createDelete => s ≤ 14
  | .updateCapacity => s ≤ 2
  | .updateBounds => s ≤ 2
  | .changeTags => s ≤ 9
  | .delete => s ≤ 14 ∧ l ≤ 119

/-- The waits of a trial, taken together. -/
theorem inBudget_iff (s l : Nat) (t : Trial) :
    ((s < 15 ∧ InTime s t.steps) ∧ (t.confirmsDeletion = true → l < absenceAttempts)) ↔
      InBudget s l t := by
  cases t <;>
    simp [InTime, InBudget, Trial.steps, Trial.initialSync, Trial.confirmsDeletion,
      Trial.syncAttempts, Trial.tagSyncAttempts, absenceAttempts] <;> omega

theorem isLabel_beginning (t : Trial) : Naming.IsLabel t.beginning := by
  cases t <;> decide

theorem isInert_valueFor {values : Dictionary} (h : ∀ e ∈ values.entries, IsInert e.2)
    {key : String} (hkey : IsInert ("$" ++ key)) : IsInert (valueFor values key) := by
  cases hvalue : values.get? key with
  | none => simpa [valueFor, hvalue] using hkey
  | some v =>
      obtain ⟨before, after, hentries, -⟩ := List.lookup_eq_some_iff.mp hvalue
      simpa [valueFor, hvalue] using h (key, v) (by simp [hentries])

/-- With the shipped manifest and values that stay between their quotes, a trial succeeds just
if the controller is quick enough for it, and no resource is left behind in any case. -/
theorem run_succeeds_iff_inBudget {values : Dictionary} {dir : String} {fs : Files}
    (hshipped : fs.readText (Files.join dir "auto_scaling_group.yaml") = .ok shipped)
    (hinert : ∀ e ∈ values.entries, IsInert e.2) (scope : String) (draws : Nat → Naming.Draw)
    (t : Trial) (s l : Nat) :
    let r : Runner := { ofValues values with manifestDir := dir, scope := scope }
    let played := (r.run fs draws t).play (I := Site.calls) World.reply (World.start s l)
    (played.result = .ok () ↔ InBudget s l t) ∧ ∀ name, played.state.objects name = none := by
  intro r played
  have hbeginning := isLabel_beginning t
  have hlabel : Naming.IsLabel (r.freshHandle draws t.beginning).name :=
    Naming.isLabel_generate hbeginning (by decide)
  have hbody := body_of_shipped (r := r) hshipped hlabel.isPlain
    (Naming.ofPlain_generate hbeginning (by decide)) (isInert_valueFor hinert (by decide))
    (isInert_valueFor hinert (by decide)) (isInert_valueFor hinert (by decide))
  have hrun := hinges_run (s := s) (l := l) hbody (g := madeGroup scope _ []) rfl rfl rfl rfl
    (planned_steps t) (Nat.succ_pos 2)
  have hverdict := hrun.congr (inBudget_iff s l t)
  have hvacant : Vacant played.state := hverdict.state
  exact ⟨hverdict.result_iff, hvacant⟩

/-- The third reading behind a change is still in time for a new capacity, the fourth is not. -/
theorem run_succeeds_iff_inBudget_atHand :
    stocked.readText (Files.join "" "auto_scaling_group.yaml") = .ok shipped ∧
      (∀ e ∈ atHand.values.entries, IsInert e.2) ∧
      ((atHand.run stocked (fun _ => 0) .updateCapacity).play (I := Site.calls) World.reply
        (World.start 2 0)).result = .ok () ∧
      ((atHand.run stocked (fun _ => 0) .updateCapacity).play (I := Site.calls) World.reply
        (World.start 3 0)).result ≠ .ok () := by
  have hinert : ∀ e ∈ atHand.values.entries, IsInert e.2 := by decide
  have hverdict := run_succeeds_iff_inBudget readText_stocked hinert Handle.defaultScope
    (fun _ => 0) .updateCapacity
  refine ⟨readText_stocked, hinert, (hverdict 2 0).1.mpr (by simp [InBudget]), fun hok => ?_⟩
  have hlate := (hverdict 3 0).1.mp hok
  simp [InBudget] at hlate

end ScalingTrials.Runner
