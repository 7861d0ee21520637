import ScalingTrials.Manifest.Shipped
import ScalingTrials.Proofs.Manifest
import ScalingTrials.Proofs.Yaml.Words
import ScalingTrials.Replacements

/-! # The body of a scaling group

The shipped manifest is a mapping that asks for four values. Whatever the values hold, short
of characters that end or escape a quoted text, they fill the places that are meant for them. -/

namespace ScalingTrials

namespace Manifest

open Yaml (IsPlain Mapping Scalar Value Written)

/-! ### Values between quotes -/

/-- Characters that only control a terminal or a printer. -/
def isControl (c : Char) : Bool := c.toNat < 32 || (127 ≤ c.toNat && c.toNat < 160)

/-- A text that neither ends nor escapes a quoted text, and stays on its line. -/
def IsInert (s : String) : Prop := ∀ c ∈ s.toList, isControl c = false ∧ c ≠ '"' ∧ c ≠ '\\'

instance (s : String) : Decidable (IsInert s) :=
  List.decidableBAll (fun c => isControl c = false ∧ c ≠ '"' ∧ c ≠ '\\') s.toList

theorem IsInert.escapeOf {s : String} (h : IsInert s) : ∀ c ∈ s.toList, Yaml.EscapeOf c [c] := by
  intro c hc
  obtain ⟨hcontrol, hquote, hback⟩ := h c hc
  have hne : ∀ d, isControl d = true → c ≠ d := by
    rintro d hd rfl
    rw [hcontrol] at hd
    cases hd
  refine .plain hquote hback (hne _ rfl) (hne _ rfl) ?_
  simp [Yaml.isBreak, hne '\n' rfl, hne '\r' rfl]

/-! ### The shipped manifest as a mapping -/

def groupMapping (name templateId version subnets : String) : Mapping :=
  .value "apiVersion" (.plain "autoscaling.services.k8s.aws/v1alpha1") <|
  .value "kind" (.plain "AutoScalingGroup") <|
  .mapping "metadata" (.value "name" (.plain name) .nil) <|
  .mapping "spec"
    (.value "autoScalingGroupName" (.plain name) <|
      .value "minSize" (.plain "0") <|
      .value "maxSize" (.plain "2") <|
      .mapping "launchTemplate"
        (.value "launchTemplateID" (.quoted (fun c => [c]) templateId) <|
          .value "version" (.quoted (fun c => [c]) version) .nil) <|
      .value "vpcZoneIdentifier" (.quoted (fun c => [c]) subnets) .nil)
    .nil

/-- What the body of a scaling group asks for. -/
def groupSpec (name templateId version subnets : String) : List (String × Json) :=
  [("autoScalingGroupName", .str name),
    ("minSize", .int 0),
    ("maxSize", .int 2),
    ("launchTemplate", .obj [("launchTemplateID", .str templateId), ("version", .str version)]),
    ("vpcZoneIdentifier", .str subnets)]

def groupMembers (name templateId version subnets : String) : List (String × Json) :=
  [("apiVersion", .str "autoscaling.services.k8s.aws/v1alpha1"),
    ("kind", .str "AutoScalingGroup"),
    ("metadata", .obj [("name", .str name)]),
    ("spec", .obj (groupSpec name templateId version subnets))]

/-- The body of a scaling group. -/
def groupBody (name templateId version subnets : String) : Json :=
  .obj (groupMembers name templateId version subnets)

/-- The values that every body has. -/
def fixedValues : List String :=
  ["autoscaling.services.k8s.aws/v1alpha1", "AutoScalingGroup", "0", "2"]

def groupKeys : List String :=
  ["apiVersion", "kind", "metadata", "name", "spec", "autoScalingGroupName", "minSize", "maxSize",
    "launchTemplate", "launchTemplateID", "version", "vpcZoneIdentifier"]

open Replacements (groupNameKey templateIdKey templateVersionKey subnetsKey)

/-- The text of the shipped manifest is that of a mapping that asks for four values. -/
theorem shipped_eq : shipped = String.ofList (groupMapping ("$" ++ groupNameKey)
    ("$" ++ templateIdKey) ("$" ++ templateVersionKey) ("$" ++ subnetsKey)).text := by
  apply String.toList_injective
  rw [String.toList_ofList]
  unfold shipped
  simp only [String.toList_append, List.append_assoc]
  decide +kernel

theorem fillable_groupMapping (name templateId version subnets : String) :
    Fillable (groupMapping name templateId version subnets) := by
  have hkeys : ∀ key ∈ groupKeys, '$' ∉ key.toList := by decide
  simp only [groupKeys, List.forall_mem_cons] at hkeys
  simp only [groupMapping, Fillable, Verbatim, hkeys, not_false_eq_true, and_self]

theorem fillMapping_groupMapping (values : Dictionary) (name templateId version subnets : String) :
    fillMapping values (groupMapping name templateId version subnets) =
      groupMapping (fill values name) (fill values templateId) (fill values version)
        (fill values subnets) := by
  have hfixed : ∀ s ∈ fixedValues, fill values s = s := by
    have hnone : ∀ s ∈ fixedValues, '$' ∉ s.toList := by decide
    exact fun s hs => fill_of_notMem values (hnone s hs)
  simp only [fixedValues, List.forall_mem_cons] at hfixed
  simp only [groupMapping, fillMapping, fillWritten, hfixed]

/-- Filling the shipped manifest puts the values into their places. -/
theorem fill_shipped (values : Dictionary) :
    fill values shipped = String.ofList (groupMapping (valueFor values groupNameKey)
      (valueFor values templateIdKey) (valueFor values templateVersionKey)
      (valueFor values subnetsKey)).text := by
  rw [shipped_eq, fill_text values (fillable_groupMapping ..), fillMapping_groupMapping,
    fill_placeholder values (by decide), fill_placeholder values (by decide),
    fill_placeholder values (by decide), fill_placeholder values (by decide)]

theorem isKey_of_mem {key : String} (h : key ∈ groupKeys) : Yaml.Scanner.IsKey key := by
  have hall : ∀ key ∈ groupKeys,
      Yaml.needsQuotes key = false ∧ key.toList.length ≤ Yaml.Scanner.keyLength := by
    decide +kernel
  exact ⟨Yaml.isPlain_of_needsQuotes_eq_false (hall key h).1, (hall key h).2⟩

theorem isPlain_of_mem {s : String} (h : s ∈ fixedValues) : IsPlain s.toList := by
  have hall : ∀ s ∈ fixedValues,
      s.toList ≠ [] ∧ s.toList.head?.any Yaml.opensOther = false ∧
        s.toList.any Yaml.breaksPlain = false ∧ s.toList.getLast? ≠ some ' ' := by
    decide +kernel
  obtain ⟨hne, hopens, hinner, hcloses⟩ := hall s h
  exact ⟨hne, (Option.any_eq_false _ _).mp hopens, by simpa using hinner, hcloses⟩

variable {name templateId version subnets : String}

theorem readable_groupMapping (hname : IsPlain name.toList) (hid : IsInert templateId)
    (hversion : IsInert version) (hsubnets : IsInert subnets) :
    (groupMapping name templateId version subnets).Readable := by
  have hplain := fun s => @isPlain_of_mem s
  have hkeys := fun key => @isKey_of_mem key
  simp only [groupKeys, fixedValues, List.forall_mem_cons] at hplain hkeys
  have hid' := hid.escapeOf
  have hversion' := hversion.escapeOf
  have hsubnets' := hsubnets.escapeOf
  simp only [groupMapping, Mapping.Readable, Written.Readable, hplain, hkeys, hname, ne_eq,
    reduceCtorEq, not_false_eq_true, and_true, true_and]
  exact ⟨⟨hid', hversion'⟩, hsubnets'⟩

theorem stands_str {w : Written} {s : String} (h : w.scalar = .str s) :
    w.Stands (.str s) (.str s) :=
  ⟨fun _ _ => by rw [h]; rfl, rfl⟩

theorem stands_int {w : Written} {n : Int} (h : w.scalar = .int n) :
    w.Stands (.int n) (.int n) :=
  ⟨fun _ _ => by rw [h]; rfl, rfl⟩

/-- A name that stands for itself and the values between quotes are read as texts, and the
bounds as numbers. -/
theorem means_groupMapping (hname : Scalar.ofPlain name = .str name)
    (templateId version subnets : String) :
    ∃ entries, (groupMapping name templateId version subnets).Means entries
      (groupMembers name templateId version subnets) := by
  have hword : ∀ s ∈ "autoscaling.services.k8s.aws/v1alpha1" :: "AutoScalingGroup" :: groupKeys,
      Scalar.ofPlain s = .str s := by
    have hall : ∀ s ∈ "autoscaling.services.k8s.aws/v1alpha1" :: "AutoScalingGroup" :: groupKeys,
        Scalar.startsWithLetter s = true ∧ s ∉ ["null", "true", "false"] := by decide
    exact fun s hs => Scalar.ofPlain_of_startsWithLetter (hall s hs).1 (hall s hs).2
  simp only [groupKeys, List.forall_mem_cons] at hword
  obtain ⟨happ, hgroup, hversion, hkind, hmetadata, hnamed, hspec, hgroupName, hmin, hmax,
    htemplate, hid, hlatest, hzones, -⟩ := hword
  have htext : (Written.plain name).Stands (.str name) (.str name) := stands_str hname
  exact ⟨_,
    .value hversion (stands_str happ) (by simp [Mapping.keys]) <|
    .value hkind (stands_str hgroup) (by simp [Mapping.keys]) <|
    .mapping hmetadata (.value hnamed htext (by simp [Mapping.keys]) .nil)
      (by simp [Mapping.keys]) <|
    .mapping hspec
      (.value hgroupName htext (by simp [Mapping.keys]) <|
        .value hmin (stands_int rfl) (by simp [Mapping.keys]) <|
        .value hmax (stands_int rfl) (by simp [Mapping.keys]) <|
        .mapping htemplate
          (.value hid (stands_str rfl) (by simp [Mapping.keys]) <|
            .value hlatest (stands_str rfl) (by simp [Mapping.keys]) .nil)
          (by simp [Mapping.keys]) <|
        .value hzones (stands_str rfl) (by simp [Mapping.keys]) .nil) (by simp [Mapping.keys]) .nil⟩

/-- The shipped manifest becomes the body with the values that were asked for. -/
theorem bodyOf_fill_shipped (manifestName : String) (values : Dictionary)
    (hplain : IsPlain (valueFor values groupNameKey).toList)
    (hname : Scalar.ofPlain (valueFor values groupNameKey) = .str (valueFor values groupNameKey))
    (hid : IsInert (valueFor values templateIdKey))
    (hversion : IsInert (valueFor values templateVersionKey))
    (hsubnets : IsInert (valueFor values subnetsKey)) :
    bodyOf manifestName (fill values shipped) =
      .ok (groupBody (valueFor values groupNameKey) (valueFor values templateIdKey)
        (valueFor values templateVersionKey) (valueFor values subnetsKey)) := by
  obtain ⟨entries, hmeans⟩ := means_groupMapping hname (valueFor values templateIdKey)
    (valueFor values templateVersionKey) (valueFor values subnetsKey)
  have hnonempty : groupMapping (valueFor values groupNameKey) (valueFor values templateIdKey)
      (valueFor values templateVersionKey) (valueFor values subnetsKey) ≠ .nil := by
    simp [groupMapping]
  have hdepth : (groupMapping (valueFor values groupNameKey) (valueFor values templateIdKey)
      (valueFor values templateVersionKey) (valueFor values subnetsKey)).depth <
        Yaml.Reading.depthLimit := by
    simp [groupMapping, Mapping.depth, Yaml.Reading.depthLimit]
  rw [fill_shipped, groupBody,
    bodyOf_text _ (readable_groupMapping hplain hid hversion hsubnets) hnonempty hmeans hdepth]

end Manifest

end ScalingTrials
