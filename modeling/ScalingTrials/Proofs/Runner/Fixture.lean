import ScalingTrials.Proofs.Body
import ScalingTrials.Proofs.Naming
import ScalingTrials.Proofs.Runner.Phases

/-! # The fixture of a trial

The fixture is made from the shipped manifest under a fresh name. Values and names end up
in its body as they are. -/

namespace ScalingTrials.Runner

open Manifest (IsInert groupBody shipped valueFor)
open Replacements (groupNameKey templateIdKey templateVersionKey subnetsKey)

variable {r : Runner} {fs : Files} {name beginning : String}

/-- The body under a name is that of the template, filled with the values and the name. -/
theorem body_of_bodyOf {template : String} {b : Json}
    (h : fs.readText (Files.join r.manifestDir "auto_scaling_group.yaml") = .ok template)
    (hbody : Manifest.bodyOf manifestName
      (Manifest.fill (r.values.insert groupNameKey name) template) = .ok b) :
    r.body fs name = .ok b := by
  have hfile : manifestName ++ ".yaml" = "auto_scaling_group.yaml" := by simp [manifestName]
  unfold body Manifest.render Manifest.body Manifest.pathIn Manifest.withValue Manifest.withValues
    Manifest.named
  dsimp only
  rw [hfile, h, Dictionary.insertAll_entries]
  dsimp only
  rw [hbody]

/-- From the shipped manifest, a name that stands for itself and values that stay between
their quotes give the body with the values. -/
theorem body_of_shipped
    (hshipped : fs.readText (Files.join r.manifestDir "auto_scaling_group.yaml") = .ok shipped)
    (hplain : Yaml.IsPlain name.toList) (hname : Yaml.Scalar.ofPlain name = .str name)
    (hid : IsInert (valueFor r.values templateIdKey))
    (hversion : IsInert (valueFor r.values templateVersionKey))
    (hsubnets : IsInert (valueFor r.values subnetsKey)) :
    r.body fs name = .ok (groupBody name (valueFor r.values templateIdKey)
      (valueFor r.values templateVersionKey) (valueFor r.values subnetsKey)) := by
  have hown : valueFor (r.values.insert groupNameKey name) groupNameKey = name := by
    simp [valueFor, Dictionary.get?_insert]
  have hothers : ∀ key ∈ [templateIdKey, templateVersionKey, subnetsKey],
      valueFor (r.values.insert groupNameKey name) key = valueFor r.values key := by
    have hne : ∀ key ∈ [templateIdKey, templateVersionKey, subnetsKey], key ≠ groupNameKey := by
      decide
    intro key hkey
    rw [valueFor, Dictionary.get?_insert, if_neg (hne key hkey), valueFor]
  simp only [List.forall_mem_cons] at hothers
  obtain ⟨hsameId, hsameVersion, hsameSubnets, -⟩ := hothers
  have hfilled := Manifest.bodyOf_fill_shipped manifestName
    (r.values.insert groupNameKey name) (by rwa [hown]) (by rwa [hown])
    (by rwa [hsameId]) (by rwa [hsameVersion]) (by rwa [hsameSubnets])
  rw [hown, hsameId, hsameVersion, hsameSubnets] at hfilled
  exact body_of_bodyOf hshipped hfilled

theorem valueFor_valuesOf (templateId zone subnets : String) :
    valueFor (Replacements.valuesOf templateId zone subnets) templateIdKey = templateId ∧
      valueFor (Replacements.valuesOf templateId zone subnets) templateVersionKey = "$Latest" ∧
      valueFor (Replacements.valuesOf templateId zone subnets) subnetsKey = subnets := by
  simp [valueFor, Replacements.valuesOf, Dictionary.ofList, Dictionary.insertAll,
    Dictionary.get?_insert, templateIdKey, templateVersionKey, Replacements.zoneKey, subnetsKey,
    Replacements.latestVersion]

/-- The manifest of a fixture takes the values of a descriptor verbatim, and the fallback
values as well: they never change what else the body holds, whatever they look like. The
generated name stays a text whatever is drawn. -/
theorem fixture_is_intended
    (hshipped : fs.readText (Files.join r.manifestDir "auto_scaling_group.yaml") = .ok shipped)
    (hbeginning : Naming.IsLabel beginning) (draws : Nat → Naming.Draw) (d : Descriptor) :
    let h := r.freshHandle draws beginning
    (r.values = (Replacements.ofDescriptor d).values → IsInert d.templateId → IsInert d.subnets →
      r.body fs h.name = .ok (groupBody h.name d.templateId "$Latest" d.subnets) ∧
      r.createFixture fs draws beginning =
        r.make h (groupBody h.name d.templateId "$Latest" d.subnets)) ∧
    (r.values = Replacements.defaults.values →
      r.body fs h.name = .ok (groupBody h.name "" "$Latest" "") ∧
      r.createFixture fs draws beginning = r.make h (groupBody h.name "" "$Latest" "")) := by
  intro h
  have hlabel : Naming.IsLabel h.name := Naming.isLabel_generate hbeginning (by decide)
  have hname : Yaml.Scalar.ofPlain h.name = .str h.name :=
    Naming.ofPlain_generate hbeginning (by decide)
  have hfixture : ∀ {templateId zone subnets},
      r.values = Replacements.valuesOf templateId zone subnets →
      IsInert templateId → IsInert subnets →
      r.body fs h.name = .ok (groupBody h.name templateId "$Latest" subnets) ∧
      r.createFixture fs draws beginning =
        r.make h (groupBody h.name templateId "$Latest" subnets) := by
    intro templateId zone subnets hvalues hid hsubnets
    obtain ⟨hidFor, hversionFor, hsubnetsFor⟩ := valueFor_valuesOf templateId zone subnets
    rw [← hvalues] at hidFor hversionFor hsubnetsFor
    have hbody := body_of_shipped hshipped hlabel.isPlain hname (by rwa [hidFor])
      (by rw [hversionFor]; decide) (by rwa [hsubnetsFor])
    rw [hidFor, hversionFor, hsubnetsFor] at hbody
    exact ⟨hbody, createFixture_of_body hbody⟩
  exact ⟨fun hvalues hid hsubnets => hfixture hvalues hid hsubnets,
    fun hvalues => hfixture hvalues (by simp [IsInert]) (by simp [IsInert])⟩

/-- A directory with the shipped manifest in it. -/
def stocked : Files :=
  { here := []
    node? := fun l =>
      if l = ["auto_scaling_group.yaml"] then some (.file shipped.toUTF8) else none }

theorem readText_stocked :
    stocked.readText (Files.join "" "auto_scaling_group.yaml") = .ok shipped := by
  have hpath : Files.join "" "auto_scaling_group.yaml" = "auto_scaling_group.yaml" := by
    simp [Files.join]
  have hlocate : stocked.locate "auto_scaling_group.yaml" = .ok ["auto_scaling_group.yaml"] := rfl
  rw [hpath]
  exact Files.readText_of_at? hlocate (by simp [Files.at?, stocked]) rfl

/-- Values that look like placeholders, mappings, comments and lists. -/
def awkward : Descriptor where
  templateId := " $ASG_NAME: {lt-0, 1e3} #x "
  templateName := "web"
  zone := "us-west-2a"
  subnets := "true"

def atHand : Runner :=
  { ofValues (Replacements.ofDescriptor awkward).values with manifestDir := "" }

theorem fixture_is_intended_awkward :
    stocked.readText (Files.join "" "auto_scaling_group.yaml") = .ok shipped ∧
      Naming.IsLabel "ack-test-asg" ∧ IsInert awkward.templateId ∧ IsInert awkward.subnets ∧
      atHand.body stocked (atHand.freshHandle (fun _ => 0) "ack-test-asg").name =
        .ok (groupBody (atHand.freshHandle (fun _ => 0) "ack-test-asg").name
          " $ASG_NAME: {lt-0, 1e3} #x " "$Latest" "true") := by
  have hbeginning : Naming.IsLabel "ack-test-asg" := by decide
  have hid : IsInert awkward.templateId := by decide
  have hsubnets : IsInert awkward.subnets := by decide
  have hfixture := (fixture_is_intended (r := atHand) readText_stocked hbeginning (fun _ => 0)
    awkward).1 rfl hid hsubnets
  exact ⟨readText_stocked, hbeginning, hid, hsubnets, hfixture.1⟩

end ScalingTrials.Runner
