import Mathlib.Algebra.GroupWithZero.Nat
import ScalingTrials.Proofs.Naming

/-! # What a generated name takes from its draws

Behind its fixed part, a name takes the digits of successive draws in order. No more is drawn than
there is room for, and all that is drawn shows. -/

namespace ScalingTrials.Naming

variable {draws draws' : Nat → Draw} {beginning : String} {limit next room : Nat} {c : Char}

/-! ### The digits of a draw -/

def isHexDigit (c : Char) : Bool := ('0' ≤ c && c ≤ '9') || ('a' ≤ c && c ≤ 'f')

theorem isHexDigit_hexDigit {n : Nat} (h : n < 16) : isHexDigit (hexDigit n) = true := by
  have hall : ∀ n < 16, isHexDigit (hexDigit n) = true := by decide
  exact hall n h

theorem exists_hexDigit_eq (h : isHexDigit c = true) : ∃ n < 16, hexDigit n = c := by
  simp only [isHexDigit, Bool.or_eq_true, Bool.and_eq_true, decide_eq_true_eq] at h
  have hback : Char.ofNat c.toNat = c := Char.ofNat_toNat c
  rcases h with ⟨hlow, hhigh⟩ | ⟨hlow, hhigh⟩
  · have hlow : 48 ≤ c.toNat := hlow
    have hhigh : c.toNat ≤ 57 := hhigh
    refine ⟨c.toNat - 48, by omega, ?_⟩
    rw [hexDigit, if_pos (by omega), Nat.add_sub_cancel' hlow, hback]
  · have hlow : 97 ≤ c.toNat := hlow
    have hhigh : c.toNat ≤ 102 := hhigh
    refine ⟨c.toNat - 87, by omega, ?_⟩
    rw [hexDigit, if_neg (by omega), Nat.add_sub_cancel' (by omega), hback]

theorem isHexDigit_of_mem_digits {d : Draw} (h : c ∈ digits d) : isHexDigit c = true := by
  obtain ⟨i, -, rfl⟩ := List.mem_map.mp h
  exact isHexDigit_hexDigit (Nat.mod_lt _ (by decide))

/-- The digits of a number, the one of most weight first. -/
def digitsOf (width n : Nat) : List Char :=
  (List.range width).map fun i => hexDigit (n / 16 ^ (width - 1 - i) % 16)

theorem digits_eq (d : Draw) : digits d = digitsOf 32 d.toNat := rfl

theorem digitsOf_succ {width v n : Nat} (hv : v < 16) (hn : n < 16 ^ width) :
    digitsOf (width + 1) (v * 16 ^ width + n) = hexDigit v :: digitsOf width n := by
  have hpos : 0 < 16 ^ width := Nat.pow_pos (by decide)
  rw [digitsOf, List.range_succ_eq_map, List.map_cons, List.map_map]
  congr 1
  · have hfirst : (v * 16 ^ width + n) / 16 ^ width = v := by
      rw [Nat.add_comm, Nat.add_mul_div_right _ _ hpos, Nat.div_eq_of_lt hn, Nat.zero_add]
    rw [Nat.add_sub_cancel, Nat.sub_zero, hfirst, Nat.mod_eq_of_lt hv]
  · apply List.map_congr_left
    intro i hi
    rw [List.mem_range] at hi
    -- The weight of the first digit is a multiple of sixteen times that of any other.
    have hweight : 16 ^ width = 16 ^ (width - 1 - i) * (16 ^ i * 16) := by
      rw [← Nat.pow_succ, ← Nat.pow_add]
      congr 1
      omega
    have hrest : width + 1 - 1 - (i + 1) = width - 1 - i := by omega
    have hsmall : 0 < 16 ^ (width - 1 - i) := Nat.pow_pos (by decide)
    simp only [Function.comp_apply, Nat.succ_eq_add_one, hrest]
    rw [hweight, Nat.mul_left_comm, Nat.add_comm, Nat.add_mul_div_left _ _ hsmall,
      ← Nat.mul_assoc, Nat.add_mul_mod_self_right]

theorem exists_digitsOf_eq {cs : List Char} (h : ∀ c ∈ cs, isHexDigit c = true) :
    ∃ n < 16 ^ cs.length, digitsOf cs.length n = cs := by
  induction cs with
  | nil => exact ⟨0, by decide, rfl⟩
  | cons c cs ih =>
      obtain ⟨v, hv, hc⟩ := exists_hexDigit_eq (h c (by simp))
      obtain ⟨n, hn, hcs⟩ := ih fun d hd => h d (by simp [hd])
      refine ⟨v * 16 ^ cs.length + n, ?_, ?_⟩
      · have hfirst : v * 16 ^ cs.length ≤ 15 * 16 ^ cs.length :=
          Nat.mul_le_mul_right _ (Nat.le_of_lt_succ hv)
        rw [List.length_cons, Nat.pow_succ]
        omega
      · rw [List.length_cons, digitsOf_succ hv hn, hc, hcs]

/-- Any text of as many digits can be drawn. -/
theorem exists_digits_eq {cs : List Char} (hlength : cs.length = 32)
    (h : ∀ c ∈ cs, isHexDigit c = true) : ∃ d, digits d = cs := by
  obtain ⟨n, hn, hcs⟩ := exists_digitsOf_eq h
  rw [hlength] at hn hcs
  have hfits : n < 2 ^ 128 := by omega
  refine ⟨BitVec.ofNat 128 n, ?_⟩
  rw [digits_eq, BitVec.toNat_ofNat, Nat.mod_eq_of_lt hfits, hcs]

/-! ### Successive draws -/

/-- How many draws have digits enough for the room. -/
def drawsFor (room : Nat) : Nat := (room + 31) / 32

theorem drawsFor_succ (h : room ≠ 0) : drawsFor room = drawsFor (room - 32) + 1 := by
  simp only [drawsFor]
  omega

/-- The digits of so many draws, one draw behind the other. -/
def stream (draws : Nat → Draw) (next count : Nat) : List Char :=
  (List.range' next count).flatMap fun i => digits (draws i)

theorem stream_succ (draws : Nat → Draw) (next count : Nat) :
    stream draws next (count + 1) = digits (draws next) ++ stream draws (next + 1) count := by
  rw [stream, List.range'_succ, List.flatMap_cons]
  rfl

theorem fill_zero (draws : Nat → Draw) (next : Nat) : fill draws next 0 = ([], next) := by
  rw [fill, if_pos rfl]

/-- One draw, of which all is used that there is room for, and the rest from the draws behind it. -/
theorem fill_of_ne_zero (draws : Nat → Draw) (next : Nat) (h : room ≠ 0) :
    fill draws next room =
      ((digits (draws next)).take room ++ (fill draws (next + 1) (room - 32)).1,
        (fill draws (next + 1) (room - 32)).2) := by
  rw [fill, if_neg h]

theorem fill_eq (draws : Nat → Draw) (next room : Nat) :
    fill draws next room =
      ((stream draws next (drawsFor room)).take room, next + drawsFor room) := by
  induction room using Nat.strongRecOn generalizing next with
  | ind room ih =>
    by_cases hroom : room = 0
    · rw [hroom, fill_zero]
      rfl
    · rw [fill_of_ne_zero draws next hroom, ih (room - 32) (by omega), drawsFor_succ hroom,
        stream_succ, List.take_append, length_digits, Nat.add_assoc, Nat.add_comm 1]

theorem isHexDigit_of_mem_fill (h : c ∈ (fill draws next room).1) : isHexDigit c = true := by
  rw [fill_eq] at h
  obtain ⟨i, -, hdigit⟩ := List.mem_flatMap.mp (List.mem_of_mem_take h)
  exact isHexDigit_of_mem_digits hdigit

/-- The draws have the same digits as far as there is room for them. -/
def Alike (draws draws' : Nat → Draw) (next room : Nat) : Prop :=
  ∀ i < drawsFor room,
    (digits (draws (next + i))).take (room - 32 * i) =
      (digits (draws' (next + i))).take (room - 32 * i)

theorem alike_succ (h : room ≠ 0) :
    Alike draws draws' next room ↔
      (digits (draws next)).take room = (digits (draws' next)).take room ∧
        Alike draws draws' (next + 1) (room - 32) := by
  have hlater : ∀ i, next + 1 + i = next + (i + 1) ∧
      room - 32 - 32 * i = room - 32 * (i + 1) := by omega
  rw [Alike, drawsFor_succ h, Nat.forall_lt_succ_left, Alike]
  apply and_congr Iff.rfl
  apply forall₂_congr
  intro i _
  rw [(hlater i).1, (hlater i).2]

/-- The same is filled in exactly if the draws are alike. The induction follows the draws, each of
which leaves so much less room. -/
theorem fill_eq_fill_iff : fill draws next room = fill draws' next room ↔
    Alike draws draws' next room := by
  induction room using Nat.strongRecOn generalizing next with
  | ind room ih =>
    by_cases hroom : room = 0
    · simp [hroom, fill_zero, Alike, drawsFor]
    · rw [alike_succ hroom, ← ih (room - 32) (by omega), fill_of_ne_zero draws next hroom,
        fill_of_ne_zero draws' next hroom]
      constructor
      · intro h
        obtain ⟨hfirst, hrest⟩ := List.append_inj (Prod.mk.inj h).1 (by simp)
        exact ⟨hfirst, Prod.ext hrest (Prod.mk.inj h).2⟩
      · rintro ⟨hfirst, hrest⟩
        rw [hfirst, hrest]

/-! ### Whole names -/

/-- How many characters of a name are not random. -/
def fixedLength (beginning : String) (limit : Nat) : Nat := min (beginning.length + 1) limit

/-- How many characters of a name are random. -/
def roomFor (beginning : String) (limit : Nat) : Nat := limit - (beginning.length + 1)

/-- What a name for a beginning looks like that is made from draws: the beginning and a dash as far
as they fit, and behind them the digits of as many draws as there is room for. -/
structure IsName (draws : Nat → Draw) (beginning : String) (limit : Nat) (name : String)
    (drawn : Nat) : Prop where
  length : name.length = limit
  fixed : name.toList.take (fixedLength beginning limit) =
    (beginning.toList ++ ['-']).take (fixedLength beginning limit)
  random : name.toList.drop (fixedLength beginning limit) =
    ((List.range drawn).flatMap fun i => digits (draws i)).take (roomFor beginning limit)
  hex : ∀ c ∈ name.toList.drop (fixedLength beginning limit), isHexDigit c = true
  drawn : drawn = (roomFor beginning limit + 31) / 32

theorem length_fixedPart (beginning : String) (limit : Nat) :
    (fixedPart beginning limit).length = fixedLength beginning limit := by
  rw [fixedPart, List.length_take, List.length_append, String.length_toList, List.length_singleton,
    Nat.min_comm, fixedLength]

theorem fixedPart_eq (beginning : String) (limit : Nat) :
    fixedPart beginning limit =
      (beginning.toList ++ ['-']).take (fixedLength beginning limit) := by
  rw [← length_fixedPart, fixedPart, List.length_take, ← List.take_eq_take_min]

theorem generate_eq (draws : Nat → Draw) (beginning : String) (limit : Nat) :
    generate draws beginning limit =
      (String.ofList (fixedPart beginning limit ++ (fill draws 0 (roomFor beginning limit)).1),
        drawsFor (roomFor beginning limit)) := by
  have hroom : limit - (fixedPart beginning limit).length = roomFor beginning limit := by
    rw [length_fixedPart, fixedLength, roomFor]
    omega
  simp only [generate, hroom, fill_eq, Nat.zero_add]

theorem isName_generate (draws : Nat → Draw) (beginning : String) (limit : Nat) :
    IsName draws beginning limit (generate draws beginning limit).1
      (generate draws beginning limit).2 := by
  have hlength := length_generate draws beginning limit
  rw [generate_eq] at hlength ⊢
  constructor
  · rw [← String.length_toList, hlength]
  · rw [String.toList_ofList, ← length_fixedPart, List.take_left, length_fixedPart, fixedPart_eq]
  · rw [String.toList_ofList, ← length_fixedPart, List.drop_left, fill_eq, stream,
      List.range_eq_range']
  · intro c hc
    rw [String.toList_ofList, ← length_fixedPart, List.drop_left] at hc
    exact isHexDigit_of_mem_fill hc
  · rfl

theorem generate_eq_generate_iff :
    generate draws beginning limit = generate draws' beginning limit ↔
      Alike draws draws' 0 (roomFor beginning limit) := by
  rw [generate_eq, generate_eq, ← fill_eq_fill_iff, Prod.mk.injEq, String.ofList_inj,
    List.append_cancel_left_eq]
  simp only [fill_eq, Prod.mk.injEq, and_true]

/-- A beginning for which there is hardly room takes all of it, and nothing is drawn. -/
theorem generate_of_le (h : limit ≤ beginning.length) :
    generate draws beginning limit = (String.ofList (beginning.toList.take limit), 0) := by
  have hroom : roomFor beginning limit = 0 := by
    rw [roomFor]
    omega
  rw [generate_eq, hroom, fill_zero, List.append_nil, fixedPart, List.take_append_of_le_length h]
  rfl

/-- A generated name has just the length that was asked for: the beginning and a dash, and behind
them the digits of successive draws in order. It takes as many draws as there is room for, and two
streams give the same name exactly if their draws agree in the digits that are taken. Draws can be
any texts of so many digits. -/
theorem names_take_their_draws_in_order (beginning : String) (limit : Nat) :
    (∀ draws, IsName draws beginning limit (generate draws beginning limit).1
      (generate draws beginning limit).2) ∧
    (∀ draws draws', generate draws beginning limit = generate draws' beginning limit ↔
      ∀ i < (roomFor beginning limit + 31) / 32,
        (digits (draws i)).take (roomFor beginning limit - 32 * i) =
          (digits (draws' i)).take (roomFor beginning limit - 32 * i)) ∧
    (limit ≤ beginning.length → ∀ draws,
      generate draws beginning limit = (String.ofList (beginning.toList.take limit), 0)) ∧
    ∀ texts : Nat → List Char,
      (∃ draws : Nat → Draw, ∀ i, digits (draws i) = texts i) ↔
        ∀ i, (texts i).length = 32 ∧ ∀ c ∈ texts i, isHexDigit c = true := by
  refine ⟨fun draws => isName_generate draws beginning limit, ?_, fun h _ => generate_of_le h, ?_⟩
  · intro draws draws'
    rw [generate_eq_generate_iff, Alike, drawsFor]
    simp only [Nat.zero_add]
  · intro texts
    constructor
    · intro ⟨draws, hdraws⟩ i
      rw [← hdraws i]
      exact ⟨length_digits _, fun c => isHexDigit_of_mem_digits⟩
    · intro h
      have hdraw : ∀ i, ∃ d, digits d = texts i := fun i => exists_digits_eq (h i).1 (h i).2
      exact ⟨fun i => (hdraw i).choose, fun i => (hdraw i).choose_spec⟩

end ScalingTrials.Naming
