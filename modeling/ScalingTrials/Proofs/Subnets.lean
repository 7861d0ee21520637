import ScalingTrials.Descriptor

/-! # The subnets of a descriptor

Ids are joined by commas and cut apart again. Those that are without a comma, and without white
space at their ends, come back one by one. Any others are cut apart and trimmed, each for itself,
and what is left comes back from then on. -/

namespace ScalingTrials

/-- Text on both sides of a separator is cut for itself. -/
theorem Text.split_append_sep (sep : Char) (cs rest : List Char) :
    Text.split sep (cs ++ sep :: rest) = Text.split sep cs ++ Text.split sep rest := by
  induction cs with
  | nil => simp [Text.split]
  | cons c cs ih =>
      by_cases hc : c = sep
      · simp [Text.split, hc, ih]
      · simp only [List.cons_append, Text.split, hc, if_false, ih]
        cases hcut : Text.split sep cs with
        | nil => exact absurd hcut (Text.split_ne_nil sep cs)
        | cons piece pieces => rfl

/-! ### Text without white space at its ends -/

theorem Text.dropWhile_isBlank {cs : List Char}
    (h : ∀ c, cs.head? = some c → Text.isBlank c = false) : cs.dropWhile Text.isBlank = cs := by
  cases cs with
  | nil => rfl
  | cons c cs => simp [h c rfl]

theorem Text.trimBlanks_eq_self {cs : List Char}
    (hhead : ∀ c, cs.head? = some c → Text.isBlank c = false)
    (hlast : ∀ c, cs.getLast? = some c → Text.isBlank c = false) : Text.trimBlanks cs = cs := by
  rw [Text.trimBlanks, Text.dropWhile_isBlank hhead, Text.dropWhile_isBlank (by simpa using hlast),
    List.reverse_reverse]

theorem Text.isBlank_of_head?_dropWhile {cs : List Char} {c : Char}
    (h : (cs.dropWhile Text.isBlank).head? = some c) : Text.isBlank c = false := by
  have hstop := List.head?_dropWhile_not Text.isBlank cs
  rw [h] at hstop
  exact hstop

theorem Text.isBlank_of_getLast?_trimBlanks {cs : List Char} {c : Char}
    (h : (Text.trimBlanks cs).getLast? = some c) : Text.isBlank c = false := by
  rw [Text.trimBlanks, List.getLast?_reverse] at h
  exact Text.isBlank_of_head?_dropWhile h

/-- What is cut off behind does not uncover any white space in front. -/
theorem Text.isBlank_of_head?_trimBlanks {cs : List Char} {c : Char}
    (h : (Text.trimBlanks cs).head? = some c) : Text.isBlank c = false := by
  have hfront : Text.trimBlanks cs <+: cs.dropWhile Text.isBlank := by
    rw [Text.trimBlanks, ← List.reverse_suffix, List.reverse_reverse]
    exact List.dropWhile_suffix Text.isBlank
  obtain ⟨behind, hsplit⟩ := hfront
  have hfirst : (cs.dropWhile Text.isBlank).head? = some c := by
    rw [← hsplit, List.head?_append, h, Option.some_or]
  exact Text.isBlank_of_head?_dropWhile hfirst

theorem Text.mem_of_mem_trimBlanks {cs : List Char} {c : Char} (h : c ∈ Text.trimBlanks cs) :
    c ∈ cs := by
  rw [Text.trimBlanks, List.mem_reverse] at h
  have hkept := (List.dropWhile_suffix Text.isBlank).subset h
  rw [List.mem_reverse] at hkept
  exact (List.dropWhile_suffix Text.isBlank).subset hkept

namespace Descriptor

variable {templateId templateName zone : String} {ids : List String}

/-- A text that is told apart from its neighbours when it is joined with others. -/
structure IsSubnetId (id : String) : Prop where
  ne_empty : id ≠ ""
  no_comma : ',' ∉ id.toList
  no_blank_first : ∀ c, id.toList.head? = some c → Text.isBlank c = false
  no_blank_last : ∀ c, id.toList.getLast? = some c → Text.isBlank c = false

theorem toList_intercalate_comma (ids : List String) :
    (",".intercalate ids).toList = Text.join ',' (ids.map String.toList) := by
  induction ids with
  | nil => rfl
  | cons id ids ih =>
      cases ids with
      | nil => simp [Text.join]
      | cons next rest =>
          rw [String.intercalate_cons_cons, List.map_cons, Text.join_cons (by simp), ← ih]
          simp

theorem subnets_ofSubnetIds :
    (ofSubnetIds templateId templateName zone ids).subnets = ",".intercalate ids := by
  apply String.toList_injective
  rw [toList_intercalate_comma, ofSubnetIds, String.toList_ofList]

/-- Joining and cutting apart again keeps every id, and their order. -/
theorem subnetIds_ofSubnetIds (h : ∀ id ∈ ids, IsSubnetId id) :
    (ofSubnetIds templateId templateName zone ids).subnetIds = ids := by
  rw [subnetIds, ofSubnetIds, String.toList_ofList]
  cases ids with
  | nil => rfl
  | cons first rest =>
      generalize hall : first :: rest = ids at h
      have hpieces : ∀ piece ∈ ids.map String.toList, ',' ∉ piece := by
        intro piece hpiece
        obtain ⟨id, hid, rfl⟩ := List.mem_map.mp hpiece
        exact (h id hid).no_comma
      have htrimmed : (ids.map String.toList).map Text.trimBlanks = ids.map String.toList := by
        rw [List.map_map]
        apply List.map_congr_left
        intro id hid
        exact Text.trimBlanks_eq_self (h id hid).no_blank_first (h id hid).no_blank_last
      have hkept : (ids.map String.toList).filter (· ≠ []) = ids.map String.toList := by
        apply List.filter_eq_self.mpr
        intro piece hpiece
        obtain ⟨id, hid, rfl⟩ := List.mem_map.mp hpiece
        simpa using (h id hid).ne_empty
      have hback : String.ofList ∘ String.toList = id := funext fun _ => String.ofList_toList
      rw [Text.split_join (by simp [← hall]) hpieces, htrimmed, hkept, List.map_map, hback,
        List.map_id]

/-! ### Ids of any kind -/

/-- The ids in a text are those between its commas, trimmed, unless nothing is left of them. -/
def idsIn (cs : List Char) : List String :=
  (((Text.split ',' cs).map Text.trimBlanks).filter (· ≠ [])).map String.ofList

theorem subnetIds_eq (d : Descriptor) : d.subnetIds = idsIn d.subnets.toList := rfl

theorem idsIn_append_comma (cs rest : List Char) :
    idsIn (cs ++ ',' :: rest) = idsIn cs ++ idsIn rest := by
  simp only [idsIn, Text.split_append_sep, List.map_append, List.filter_append]

theorem idsIn_join (pieces : List (List Char)) :
    idsIn (Text.join ',' pieces) = pieces.flatMap idsIn := by
  induction pieces with
  | nil => rfl
  | cons piece pieces ih =>
      by_cases hlast : pieces = []
      · simp [hlast, Text.join]
      · rw [Text.join_cons hlast, idsIn_append_comma, ih, List.flatMap_cons]

/-- Each id is cut apart for itself, whatever it looks like. -/
theorem subnetIds_ofSubnetIds_eq_flatMap (ids : List String) :
    (ofSubnetIds templateId templateName zone ids).subnetIds =
      ids.flatMap fun id => (ofSubnetIds templateId templateName zone [id]).subnetIds := by
  have hjoined : ∀ ids : List String,
      (ofSubnetIds templateId templateName zone ids).subnetIds =
        idsIn (Text.join ',' (ids.map String.toList)) := by
    intro ids
    rw [subnetIds_eq, ofSubnetIds, String.toList_ofList]
  simp only [hjoined, idsIn_join, List.flatMap_map, List.map_cons, List.map_nil,
    List.flatMap_cons, List.flatMap_nil, List.append_nil]

/-- What a text is cut into can be joined and told apart again. -/
theorem isSubnetId_of_mem_subnetIds {d : Descriptor} {id : String} (h : id ∈ d.subnetIds) :
    IsSubnetId id := by
  obtain ⟨piece, hpiece, rfl⟩ := List.mem_map.mp h
  obtain ⟨htrimmed, hne⟩ := List.mem_filter.mp hpiece
  obtain ⟨cut, hcut, rfl⟩ := List.mem_map.mp htrimmed
  constructor
  · intro hempty
    have hnil : Text.trimBlanks cut = [] := by
      simpa using congrArg String.toList hempty
    simp [hnil] at hne
  · intro hcomma
    rw [String.toList_ofList] at hcomma
    exact Text.notMem_of_mem_split hcut (Text.mem_of_mem_trimBlanks hcomma)
  · intro c hc
    rw [String.toList_ofList] at hc
    exact Text.isBlank_of_head?_trimBlanks hc
  · intro c hc
    rw [String.toList_ofList] at hc
    exact Text.isBlank_of_getLast?_trimBlanks hc

/-- Ids come back from a descriptor just as they are exactly if they can be told apart in it. What
comes back from any descriptor does so, and ids of any kind are cut apart each for itself. -/
theorem subnet_ids_survive_joining (templateId templateName zone : String) :
    (∀ ids, (ofSubnetIds templateId templateName zone ids).subnetIds = ids ↔
      ∀ id ∈ ids, IsSubnetId id) ∧
    (∀ d : Descriptor, (∀ id ∈ d.subnetIds, IsSubnetId id) ∧
      (ofSubnetIds templateId templateName zone d.subnetIds).subnetIds = d.subnetIds) ∧
    ∀ ids, (ofSubnetIds templateId templateName zone ids).subnetIds =
      ids.flatMap fun id => (ofSubnetIds templateId templateName zone [id]).subnetIds := by
  refine ⟨?_, ?_, subnetIds_ofSubnetIds_eq_flatMap⟩
  · intro ids
    constructor
    · intro hback id hid
      rw [← hback] at hid
      exact isSubnetId_of_mem_subnetIds hid
    · exact subnetIds_ofSubnetIds
  · intro d
    have hids : ∀ id ∈ d.subnetIds, IsSubnetId id := fun id => isSubnetId_of_mem_subnetIds
    exact ⟨hids, subnetIds_ofSubnetIds hids⟩

example : (ofSubnetIds "" "" "" [" a,\tb", "", "\u3000", "c d "]).subnetIds =
    ["a", "b", "c d"] := by
  decide

end Descriptor

end ScalingTrials
