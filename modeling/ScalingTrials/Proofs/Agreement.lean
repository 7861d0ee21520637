import ScalingTrials.Proofs.Cleanup
import ScalingTrials.Proofs.Replacements

/-! # One record, two readers

Manifests are filled from the record of a directory, and a cleanup of the directory deletes what
the record names. Either both can use the record, or the manifests get the defaults and the
cleanup leaves everything as it is. -/

namespace ScalingTrials.Cleanup

open Cloud (calls)
open Descriptor (load)
open Replacements (resolve)

variable {fs fs' : Files} {dir : String} {es : List (Event calls)} {report : Report}

/-- The one question of a cleanup is the deletion of the template with an id; without an id it
has none. -/
inductive Deletes (id : String) : List (Event calls) → Prop where
  | nothing : id = "" → Deletes id []
  | template (answer : Except Cloud.Error Unit) : id ≠ "" →
      Deletes id [.asked (.deleteTemplate id) answer]

/-- A cleanup goes by the record if it can be loaded, and otherwise does nothing. -/
theorem Way.loaded (h : Way fs dir es report fs') :
    (∃ d, load fs dir = .ok d ∧ report.descriptor = .done ∧ Deletes d.templateId es) ∨
      ∃ e, load fs dir = .error e ∧ report.descriptor ≠ .done ∧ es = [] ∧ fs' = fs := by
  cases h with
  | absent hpresent =>
      obtain ⟨e, hload⟩ := error_of_absent hpresent
      exact .inr ⟨e, hload, nofun, rfl, rfl⟩
  | unusable _ hload => exact .inr ⟨_, hload, nofun, rfl, rfl⟩
  | unnamed hload hempty _ => exact .inl ⟨_, hload, rfl, .nothing hempty⟩
  | gone hload hnamed _ _ => exact .inl ⟨_, hload, rfl, .template _ hnamed⟩
  | kept hload hnamed _ => exact .inl ⟨_, hload, rfl, .template _ hnamed⟩

/-- Manifests are filled from the record exactly if a cleanup goes by it, and the template that
they use is the one that is deleted then. Otherwise they get the defaults, all of them, and the
cleanup asks nothing and changes nothing. -/
theorem cleanup_deletes_what_manifests_use {σ : Type} (fs : Files) (dir : String)
    (reply : σ → (q : Cloud.Ask) → Except Cloud.Error q.Result × σ) (s : σ) :
    let v := resolve fs dir
    let p := (cleanup fs dir).play (I := calls) reply s
    (v.origin = .recorded ↔ p.result.1.descriptor = .done) ∧
      (v.origin = .recorded → ∃ d, load fs dir = .ok d ∧
        v.values.entries =
          [("AVAILABILITY_ZONE_1", d.zone), ("LAUNCH_TEMPLATE_ID", d.templateId),
            ("LAUNCH_TEMPLATE_VERSION", "$Latest"), ("VPC_ZONE_IDENTIFIER", d.subnets)] ∧
        Deletes d.templateId p.events) ∧
      (v.origin = .fallback →
        v.values.entries =
          [("AVAILABILITY_ZONE_1", "us-west-2a"), ("LAUNCH_TEMPLATE_ID", ""),
            ("LAUNCH_TEMPLATE_VERSION", "$Latest"), ("VPC_ZONE_IDENTIFIER", "")] ∧
        p.events = [] ∧ p.result.2 = fs) := by
  intro v p
  have hway := way_of_course (Task.play_course reply (cleanup fs dir) s)
  rcases hway.loaded with ⟨d, hload, hdone, hdeletes⟩ | ⟨e, hload, hnot, hevents, hfiles⟩
  · have hv : v = Replacements.ofDescriptor d := Replacements.resolve_of_load hload
    have horigin : v.origin = .recorded := by rw [hv, Replacements.ofDescriptor]
    have hnever : v.origin ≠ .fallback := by simp [horigin]
    refine ⟨iff_of_true horigin hdone, fun _ => ⟨d, hload, ?_, hdeletes⟩, fun h => absurd h hnever⟩
    rw [hv, Replacements.ofDescriptor, Replacements.entries_valuesOf]
  · have hv : v = Replacements.defaults := Replacements.resolve_of_error hload
    have horigin : v.origin = .fallback := by rw [hv, Replacements.defaults]
    have hnever : v.origin ≠ .recorded := by simp [horigin]
    refine ⟨iff_of_false hnever hnot, fun h => absurd h hnever, fun _ => ⟨?_, hevents, hfiles⟩⟩
    rw [hv, Replacements.defaults, Replacements.entries_valuesOf, Replacements.defaultZone]

theorem cleanup_deletes_what_manifests_use_awkward :
    let saved := (Descriptor.awkward.save Descriptor.spoilt "out").2
    let p := (cleanup saved "out").play (I := calls) busyAtFirst true
    (resolve saved "out").origin = .recorded ∧
      ("LAUNCH_TEMPLATE_ID", Descriptor.awkward.templateId) ∈
        (resolve saved "out").values.entries ∧
      Deletes Descriptor.awkward.templateId p.events := by
  have hload : load (Descriptor.awkward.save Descriptor.spoilt "out").2 "out" =
      .ok Descriptor.awkward :=
    Descriptor.load_of_save (Descriptor.save_in_spoilt Descriptor.awkward)
  generalize (Descriptor.awkward.save Descriptor.spoilt "out").2 = files at hload ⊢
  have horigin : (resolve files "out").origin = .recorded := by
    rw [Replacements.resolve_of_load hload, Replacements.ofDescriptor]
  obtain ⟨-, hrecorded, -⟩ := cleanup_deletes_what_manifests_use files "out" busyAtFirst true
  obtain ⟨d, hload', hentries, hdeletes⟩ := hrecorded horigin
  rw [hload] at hload'
  cases hload'
  refine ⟨horigin, ?_, hdeletes⟩
  rw [hentries]
  simp

end ScalingTrials.Cleanup
