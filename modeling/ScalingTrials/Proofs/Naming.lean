import ScalingTrials.Naming
import ScalingTrials.Proofs.Yaml.Scalars
import ScalingTrials.Proofs.Yaml.Words

/-! # Generated names

A generated name has the length that was asked for. If its beginning is fit for the name of
a resource, so is the whole, and it stands plain in a manifest whatever was drawn. -/

namespace ScalingTrials.Naming

open Yaml (IsPlain)

variable {draws : Nat → Draw} {beginning : String} {limit : Nat} {c : Char}

theorem length_fill (draws : Nat → Draw) (next room : Nat) :
    (fill draws next room).1.length = room := by
  fun_induction fill draws next room with
  | case1 next => rfl
  | case2 next room hroom more after hmore ih =>
      rw [hmore] at ih
      dsimp only at ih
      simp only [List.length_append, List.length_take, length_digits]
      omega

theorem length_generate (draws : Nat → Draw) (beginning : String) (limit : Nat) :
    (generate draws beginning limit).1.toList.length = limit := by
  have hfixed : (fixedPart beginning limit).length ≤ limit := by
    rw [fixedPart, List.length_take]
    exact Nat.min_le_left _ _
  simp only [generate, String.toList_ofList, List.length_append, length_fill]
  omega

/-! ### Their characters -/

def isLower (c : Char) : Bool := 'a' ≤ c && c ≤ 'z'

/-- Characters of the names of resources. -/
def isLabelChar (c : Char) : Bool := isLower c || ('0' ≤ c && c ≤ '9') || c == '-'

/-- A text that starts with a small letter and has no other characters than the names of
resources. -/
structure IsLabel (s : String) : Prop where
  starts : ∃ c, s.toList.head? = some c ∧ isLower c = true
  chars : ∀ c ∈ s.toList, isLabelChar c = true

theorem isLabel_iff {s : String} :
    IsLabel s ↔ (s.toList.head?.any isLower && s.toList.all isLabelChar) = true := by
  rw [Bool.and_eq_true, Option.any_eq_true, List.all_eq_true]
  exact ⟨fun h => ⟨h.starts, h.chars⟩, fun h => ⟨h.1, h.2⟩⟩

instance (s : String) : Decidable (IsLabel s) := decidable_of_decidable_of_iff isLabel_iff.symm

theorem isLabelChar_hexDigit {n : Nat} (h : n < 16) : isLabelChar (hexDigit n) = true := by
  have hall : ∀ n < 16, isLabelChar (hexDigit n) = true := by decide
  exact hall n h

theorem isLabelChar_of_mem_digits {d : Draw} (h : c ∈ digits d) : isLabelChar c = true := by
  obtain ⟨i, -, rfl⟩ := List.mem_map.mp h
  exact isLabelChar_hexDigit (Nat.mod_lt _ (by decide))

theorem isLabelChar_of_mem_fill {next room : Nat} (h : c ∈ (fill draws next room).1) :
    isLabelChar c = true := by
  fun_induction fill draws next room with
  | case1 next => simp at h
  | case2 next room hroom more after hmore ih =>
      rw [hmore] at ih
      rcases List.mem_append.mp h with h | h
      · exact isLabelChar_of_mem_digits (List.mem_of_mem_take h)
      · exact ih h

theorem isLabel_generate (h : IsLabel beginning) (hlimit : 0 < limit) :
    IsLabel (generate draws beginning limit).1 := by
  obtain ⟨⟨c, hc, hlower⟩, hchars⟩ := h
  obtain ⟨rest, hrest⟩ : ∃ rest, beginning.toList = c :: rest := by
    cases hs : beginning.toList with
    | nil => simp [hs] at hc
    | cons d rest =>
        rw [hs] at hc
        cases hc
        exact ⟨rest, rfl⟩
  constructor
  · refine ⟨c, ?_, hlower⟩
    obtain ⟨room, rfl⟩ : ∃ room, limit = room + 1 := ⟨limit - 1, by omega⟩
    simp [generate, fixedPart, hrest]
  · intro d hd
    simp only [generate, String.toList_ofList, List.mem_append] at hd
    rcases hd with hd | hd
    · rcases List.mem_append.mp (List.mem_of_mem_take hd) with hd | hd
      · exact hchars d hd
      · rw [List.mem_singleton.mp hd]
        decide
    · exact isLabelChar_of_mem_fill hd

/-! ### In a manifest -/

theorem ne_of_all {kind : Char → Bool} {cs : List Char} (h : kind c = true)
    (hcs : (cs.all fun d => !kind d) = true) : ∀ d ∈ cs, c ≠ d := by
  rintro d hd rfl
  have hc := List.all_eq_true.mp hcs c hd
  rw [h] at hc
  cases hc

theorem toNat_of_isLabelChar (h : isLabelChar c = true) :
    (97 ≤ c.toNat ∧ c.toNat ≤ 122) ∨ (48 ≤ c.toNat ∧ c.toNat ≤ 57) ∨ c.toNat = 45 := by
  simp only [isLabelChar, isLower, Bool.or_eq_true, Bool.and_eq_true, decide_eq_true_eq,
    beq_iff_eq] at h
  rcases h with (h | h) | rfl
  · exact .inl h
  · exact .inr (.inl h)
  · exact .inr (.inr rfl)

theorem breaksPlain_of_isLabelChar (h : isLabelChar c = true) : Yaml.breaksPlain c = false := by
  have hrange := toNat_of_isLabelChar h
  have hquote : c.toNat ≠ 96 := by omega
  have hne : ∀ d ∈ [':', '{', '}', '[', ']', ',', '#', '"', '\'', '\\', '\t', '\n', '\r'],
      c ≠ d := ne_of_all h (by decide)
  simp only [List.forall_mem_cons] at hne
  simp [Yaml.breaksPlain, hne, hquote]
  omega

theorem opensOther_of_isLower (h : isLower c = true) : Yaml.opensOther c = false := by
  have hne : ∀ d ∈ ['&', '*', '?', '|', '-', '<', '>', '=', '!', '%', '@', '.', ' '], c ≠ d :=
    ne_of_all h (by decide)
  simp only [List.forall_mem_cons] at hne
  simp [Yaml.opensOther, hne]

theorem IsLabel.isPlain {s : String} (h : IsLabel s) : IsPlain s.toList := by
  obtain ⟨⟨c, hc, hlower⟩, hchars⟩ := h
  constructor
  · intro hnil
    simp [hnil] at hc
  · intro d hd
    obtain rfl : c = d := by simpa [hc] using hd
    exact opensOther_of_isLower hlower
  · exact fun d hd => breaksPlain_of_isLabelChar (hchars d hd)
  · intro hlast
    have hblank := hchars ' ' (List.mem_of_getLast? hlast)
    cases hblank

/-- A generated name stands for itself. -/
theorem ofPlain_generate (h : IsLabel beginning) (hlimit : 5 < limit) :
    Yaml.Scalar.ofPlain (generate draws beginning limit).1 =
      .str (generate draws beginning limit).1 := by
  have hlabel : IsLabel (generate draws beginning limit).1 := isLabel_generate h (by omega)
  obtain ⟨⟨c, hc, hlower⟩, -⟩ := hlabel
  have hlength := length_generate draws beginning limit
  apply Yaml.Scalar.ofPlain_of_startsWithLetter
  · have hletter : Yaml.Scalar.isLetter c = true := by
      simp only [isLower] at hlower
      simp [Yaml.Scalar.isLetter, hlower]
    simp [Yaml.Scalar.startsWithLetter, hc, hletter]
  · have hshort : ∀ s ∈ ["null", "true", "false"], s.toList.length ≤ 5 := by decide
    intro hreserved
    have hle := hshort _ hreserved
    omega

end ScalingTrials.Naming
