import ScalingTrials.Proofs.Preparation
import ScalingTrials.Proofs.Record
import ScalingTrials.Proofs.Subnets

/-! # What preparing leaves for the manifests

The values that a manifest is filled with are those that preparing found and recorded, each
under its key and as it was told. -/

namespace ScalingTrials

open Cloud (calls)
open Descriptor (IsSubnetId load recordIn)

namespace Replacements

/-- Each value stands under its key, and there are no others. -/
theorem entries_valuesOf (templateId zone subnets : String) :
    (valuesOf templateId zone subnets).entries =
      [("AVAILABILITY_ZONE_1", zone), ("LAUNCH_TEMPLATE_ID", templateId),
        ("LAUNCH_TEMPLATE_VERSION", "$Latest"), ("VPC_ZONE_IDENTIFIER", subnets)] := by
  simp only [valuesOf, Dictionary.ofList, Dictionary.insertAll, Dictionary.insert,
    Dictionary.insertEntry, Dictionary.empty, templateIdKey, templateVersionKey, zoneKey,
    subnetsKey, latestVersion, List.foldl_cons, List.foldl_nil, String.reduceLT, String.reduceEq,
    if_true, if_false]

theorem resolve_of_load {fs : Files} {dir : String} {d : Descriptor} (h : load fs dir = .ok d) :
    resolve fs dir = ofDescriptor d := by
  simp [resolve, h]

theorem resolve_of_error {fs : Files} {dir : String} {e : Descriptor.RecordError}
    (h : load fs dir = .error e) : resolve fs dir = defaults := by
  simp [resolve, h]

/-- The keys are the same, wherever the values come from. -/
theorem keys_resolve (fs : Files) (dir : String) :
    (resolve fs dir).values.entries.map Prod.fst =
      [zoneKey, templateIdKey, templateVersionKey, subnetsKey] := by
  cases h : load fs dir with
  | ok d => rw [resolve_of_load h, ofDescriptor, entries_valuesOf]; rfl
  | error e => rw [resolve_of_error h, defaults, entries_valuesOf]; rfl

end Replacements

namespace Preparation

variable {name dir path : String} {fs : Files} {σ : Type}
  {reply : σ → (q : Cloud.Ask) → Except Cloud.Error q.Result × σ} {s : σ}

/-- Preparing succeeds where finding everything and recording it do. -/
theorem play_prepareIn {d : Descriptor} (hprepare : ((prepare name).play reply s).result = .ok d)
    (hsave : (d.save fs dir).1 = .ok path) :
    ((prepareIn name fs dir).play (I := calls) reply s).result =
        (.ok path, (d.save fs dir).2) ∧
      ((prepareIn name fs dir).play (I := calls) reply s).events =
        ((prepare name).play (I := calls) reply s).events := by
  rcases hafter : d.save fs dir with ⟨saved, after⟩
  rw [hafter] at hsave
  obtain rfl : saved = .ok path := hsave
  rw [prepareIn, Task.play_bind]
  simp [hprepare, hafter, Task.play]

/-- What was found and used is what the directory resolves to afterwards. -/
theorem prepared_values_resolve
    (hok : ((prepareIn name fs dir).play (I := calls) reply s).result.1 = .ok path) :
    let p := (prepareIn name fs dir).play (I := calls) reply s
    ∃ subnet others image id discovery supply,
      p.events = discovery ++ supply ∧ Found (subnet :: others) image discovery ∧
      Supplied name image.id (.ok id) supply ∧
      (Replacements.resolve p.result.2 dir).origin = .recorded ∧
      (Replacements.resolve p.result.2 dir).values.entries =
        [("AVAILABILITY_ZONE_1", subnet.zone.getD "us-west-2a"), ("LAUNCH_TEMPLATE_ID", id),
          ("LAUNCH_TEMPLATE_VERSION", "$Latest"),
          ("VPC_ZONE_IDENTIFIER", ",".intercalate ((subnet :: others).map fun s => s.id))] ∧
      ((∀ s ∈ subnet :: others, IsSubnetId s.id) →
        ∃ d, load p.result.2 dir = .ok d ∧ d.subnetIds = (subnet :: others).map fun s => s.id) := by
  intro p
  have hway : Way name dir fs p.events p.result.1 p.result.2 :=
    way_of_course (Task.play_course reply (prepareIn name fs dir) s)
  rw [show p.result.1 = .ok path from hok] at hway
  generalize p.events = es, p.result.2 = fs' at hway ⊢
  cases hway with
  | @saved subnets image id _ discovery supply _ hfound hsupplied hsave =>
      have hload : load fs' dir = .ok (descriptorOf name id subnets) := by
        have hsaved : ((descriptorOf name id subnets).save fs dir).1 = .ok path := by rw [hsave]
        have hback := Descriptor.load_of_save hsaved
        rwa [hsave] at hback
      have hne : subnets ≠ [] := by
        cases hfound with
        | intro hne _ => exact hne
      obtain ⟨subnet, others, rfl⟩ := List.exists_cons_of_ne_nil hne
      refine ⟨subnet, others, image, id, discovery, supply, rfl, hfound, hsupplied, ?_, ?_, ?_⟩
      · rw [Replacements.resolve_of_load hload, Replacements.ofDescriptor]
      · rw [Replacements.resolve_of_load hload, Replacements.ofDescriptor, descriptorOf,
          Descriptor.subnets_ofSubnetIds, Replacements.entries_valuesOf]
        rfl
      · intro hids
        refine ⟨_, hload, Descriptor.subnetIds_ofSubnetIds ?_⟩
        intro id hid
        obtain ⟨s, hs, rfl⟩ := List.mem_map.mp hid
        exact hids s hs

/-- A service whose account has the template already, and whose names look like anything else. -/
def tell (_ : Unit) : (q : Cloud.Ask) → Except Cloud.Error q.Result × Unit
  | .defaultNetworks => (.ok ["vpc-1", "vpc-2"], ())
  | .subnets _ => (.ok [⟨"- #b", none⟩, ⟨"'null'", some "us-west-2c"⟩], ())
  | .images _ _ => (.ok [⟨"ami-1", none⟩], ())
  | .createTemplate _ =>
    (.error ⟨"CreateLaunchTemplate", some Cloud.nameTakenCode, "Name is taken."⟩, ())
  | .templateId _ => (.ok (some "lt: \\1"), ())
  | .deleteTemplate _ => (.ok (), ())

def told : Descriptor :=
  descriptorOf "~" "lt: \\1" [⟨"- #b", none⟩, ⟨"'null'", some "us-west-2c"⟩]

theorem play_prepareIn_told :
    let p := (prepareIn "~" Descriptor.spoilt "out").play (I := calls) tell ()
    p.result = (.ok "out/bootstrap.yaml", (told.save Descriptor.spoilt "out").2) ∧
      p.events = ((prepare "~").play (I := calls) tell ()).events :=
  play_prepareIn rfl (Descriptor.save_in_spoilt told)

theorem prepared_values_resolve_told :
    let p := (prepareIn "~" Descriptor.spoilt "out").play (I := calls) tell ()
    p.result.1 = .ok "out/bootstrap.yaml" ∧
      (∃ id, (Replacements.resolve p.result.2 "out").values.entries =
        [("AVAILABILITY_ZONE_1", "us-west-2a"), ("LAUNCH_TEMPLATE_ID", id),
          ("LAUNCH_TEMPLATE_VERSION", "$Latest"), ("VPC_ZONE_IDENTIFIER", "- #b,'null'")]) ∧
      ∃ d, load p.result.2 "out" = .ok d ∧ d.subnetIds = ["- #b", "'null'"] := by
  intro p
  obtain ⟨hresult, hevents⟩ := play_prepareIn_told
  have hok : p.result.1 = .ok "out/bootstrap.yaml" := congrArg Prod.fst hresult
  obtain ⟨subnet, others, image, id, discovery, supply, hsplit, hfound, -, -, hentries, hids⟩ :=
    prepared_values_resolve hok
  rw [hevents] at hsplit
  cases hfound with
  | intro _ _ =>
      injection hsplit with _ hsplit
      injection hsplit with hsubnets _
      injection hsubnets with _ hsubnets
      cases hsubnets
      refine ⟨hok, ⟨id, hentries⟩, hids ?_⟩
      intro s hs
      simp only [List.mem_cons, List.not_mem_nil, or_false] at hs
      rcases hs with rfl | rfl
      · exact ⟨by decide, by decide, fun c hc => by cases hc; rfl, fun c hc => by cases hc; rfl⟩
      · exact ⟨by decide, by decide, fun c hc => by cases hc; rfl, fun c hc => by cases hc; rfl⟩

end Preparation

end ScalingTrials
