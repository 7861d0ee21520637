import Mathlib.Data.List.TakeWhile
import ScalingTrials.Text.Split
import ScalingTrials.Wire

/-! # The paths of handles

A handle of plain words can be read off its path, so that no two of them share one. Such a path
is its own target, unless it is too long. -/

namespace ScalingTrials

namespace Handle

/-- ASCII letters, digits, dots and hyphens. -/
def isPlain (c : Char) : Bool := c.isAlphanum || c = '.' || c = '-'

def parts (h : Handle) : List String := [h.group, h.version, h.plural, h.name, h.scope]

/-- All parts of the handle are plain words. -/
def IsPlain (h : Handle) : Prop := ∀ part ∈ h.parts, part.toList.all isPlain = true

instance (h : Handle) : Decidable h.IsPlain := by
  unfold IsPlain
  infer_instance

theorem toNat_of_isPlain {c : Char} (h : isPlain c = true) :
    c.toNat = 0x2D ∨ c.toNat = 0x2E ∨ (0x30 ≤ c.toNat ∧ c.toNat ≤ 0x39) ∨
      (0x41 ≤ c.toNat ∧ c.toNat ≤ 0x5A) ∨ (0x61 ≤ c.toNat ∧ c.toNat ≤ 0x7A) := by
  simp only [isPlain, Bool.or_eq_true, decide_eq_true_eq] at h
  rcases h with (h | rfl) | rfl
  · change (decide (65 ≤ c.val ∧ c.val ≤ 90) ||
      (decide (97 ≤ c.val) && decide (c.val ≤ 122)) ||
      (decide (48 ≤ c.val) && decide (c.val ≤ 57))) = true at h
    simp only [Bool.or_eq_true, Bool.and_eq_true, decide_eq_true_eq,
      UInt32.le_iff_toNat_le] at h
    change ((65 ≤ c.toNat ∧ c.toNat ≤ 90) ∨ 97 ≤ c.toNat ∧ c.toNat ≤ 122) ∨
      48 ≤ c.toNat ∧ c.toNat ≤ 57 at h
    omega
  · exact .inr (.inl rfl)
  · exact .inl rfl

end Handle

namespace Wire

open Handle (IsPlain isPlain)

variable {a b h : Handle}

/-! ### A handle by its path -/

/-- The names along the path, the first of which stands before the first slash. -/
def segments (h : Handle) : List String :=
  if h.group = "" then ["", "api", h.version, "namespaces", h.scope, h.plural, h.name]
  else ["", "apis", h.group, h.version, "namespaces", h.scope, h.plural, h.name]

theorem toList_itemPath (h : Handle) :
    (itemPath h).toList = Text.join '/' ((segments h).map String.toList) := by
  by_cases hgroup : h.group = ""
  · simp [itemPath, collectionPath, segments, Handle.apiVersion, hgroup, Text.join]
  · simp [itemPath, collectionPath, segments, Handle.apiVersion, hgroup, Text.join]

theorem isPlain_of_mem_segments (hplain : h.IsPlain) {s : String} (hs : s ∈ segments h) :
    ∀ c ∈ s.toList, isPlain c = true := by
  have hfixed : ∀ s ∈ ["", "api", "apis", "namespaces"], s.toList.all isPlain = true := by decide
  have hall : s ∈ ["", "api", "apis", "namespaces"] ∨ s ∈ h.parts := by
    unfold segments at hs
    split at hs
    · simp only [Handle.parts, List.mem_cons] at hs ⊢
      grind
    · simp only [Handle.parts, List.mem_cons] at hs ⊢
      grind
  rcases hall with hword | hpart
  · exact List.all_eq_true.mp (hfixed s hword)
  · exact List.all_eq_true.mp (hplain s hpart)

theorem split_itemPath (hplain : h.IsPlain) :
    Text.split '/' (itemPath h).toList = (segments h).map String.toList := by
  rw [toList_itemPath]
  refine Text.split_join ?_ fun piece hpiece hslash => ?_
  · unfold segments
    split <;> simp
  · obtain ⟨s, hs, rfl⟩ := List.mem_map.mp hpiece
    exact absurd (isPlain_of_mem_segments hplain hs '/' hslash) (by decide)

theorem segments_injective (h : segments a = segments b) : a = b := by
  obtain ⟨ga, va, pa, na, sa⟩ := a
  obtain ⟨gb, vb, pb, nb, sb⟩ := b
  unfold segments at h
  split at h <;> split at h <;> simp_all

theorem itemPath_injective (ha : a.IsPlain) (hb : b.IsPlain) (h : itemPath a = itemPath b) :
    a = b := by
  have hsegments : (segments a).map String.toList = (segments b).map String.toList := by
    rw [← split_itemPath ha, ← split_itemPath hb, h]
  exact segments_injective ((List.map_inj_right fun _ _ => String.toList_inj.mp).mp hsegments)

/-! ### Plain paths as targets -/

/-- Plain characters and slashes stand in a target as they are. -/
theorem inPath_of_isPlain {c : Char} (hc : isPlain c = true ∨ c = '/') :
    inPath c = true ∧ c ≠ '?' ∧ c ≠ '#' := by
  have hcode : 0x2D ≤ c.toNat ∧ c.toNat ≤ 0x3B ∨ 0x41 ≤ c.toNat ∧ c.toNat ≤ 0x5A ∨
      0x61 ≤ c.toNat ∧ c.toNat ≤ 0x7A := by
    rcases hc with hc | rfl
    · have := Handle.toNat_of_isPlain hc
      omega
    · decide
  refine ⟨?_, ?_, ?_⟩
  · simp only [inPath, Bool.or_eq_true, Bool.and_eq_true, beq_iff_eq, decide_eq_true_eq]
    omega
  · rintro rfl
    revert hcode
    decide
  · rintro rfl
    revert hcode
    decide

theorem target_of_inPath {path : String} (method : Method)
    (hpath : ∀ c ∈ path.toList, inPath c = true ∧ c ≠ '?' ∧ c ≠ '#') :
    target method path =
      if path.utf8ByteSize + method.markSize > targetLimit
      then .error (.unaddressable "uri too long") else .ok path := by
  have hway : path.toList.takeWhile (fun c => c ≠ '?' ∧ c ≠ '#') = path.toList := by
    rw [List.takeWhile_eq_self_iff]
    intro c hc
    simpa using (hpath c hc).2
  have hall : path.toList.all inPath = true := List.all_eq_true.mpr fun c hc => (hpath c hc).1
  unfold target
  dsimp only
  rw [hway, hall, List.drop_length]
  simp [String.ofList_toList]

theorem inPath_of_mem_itemPath (hplain : h.IsPlain) {c : Char} (hc : c ∈ (itemPath h).toList) :
    inPath c = true ∧ c ≠ '?' ∧ c ≠ '#' := by
  rw [toList_itemPath] at hc
  rcases Text.eq_or_mem_of_mem_join hc with hslash | ⟨piece, hpiece, hc⟩
  · exact inPath_of_isPlain (.inr hslash)
  · obtain ⟨s, hs, rfl⟩ := List.mem_map.mp hpiece
    exact inPath_of_isPlain (.inl (isPlain_of_mem_segments hplain hs c hc))

theorem eq_of_target {method : Method} {path target : String}
    (hpath : ∀ c ∈ path.toList, inPath c = true ∧ c ≠ '?' ∧ c ≠ '#')
    (h : Wire.target method path = .ok target) : target = path := by
  rw [target_of_inPath method hpath] at h
  split at h
  · cases h
  · exact (Except.ok.inj h).symm

theorem inPath_of_mem_collectionPath (hplain : h.IsPlain) {c : Char}
    (hc : c ∈ (collectionPath h).toList) : inPath c = true ∧ c ≠ '?' ∧ c ≠ '#' := by
  refine inPath_of_mem_itemPath hplain ?_
  simp [itemPath, hc]

theorem target_collectionPath (hplain : h.IsPlain) (method : Method) :
    target method (collectionPath h) =
      if (collectionPath h).utf8ByteSize + method.markSize > targetLimit
      then .error (.unaddressable "uri too long") else .ok (collectionPath h) :=
  target_of_inPath method fun _ hc => inPath_of_mem_collectionPath hplain hc

end Wire

end ScalingTrials
