import Mathlib.Tactic.IntervalCases
import ScalingTrials.Wire.Timestamp

/-! # The order of time stamps

A time stamp in universal time with all its places filled comes before another, as a text, exactly
if it is earlier. Each field has a fixed number of digits, so texts compare like their fields,
from the year down; and a day of a later month comes after every day of an earlier one. -/

namespace ScalingTrials.Wire.Timestamp

/-! ### Days -/

/-- The first of March of a year, as a day number. -/
def marchStart (year : Int) : Int := 365 * year + year.fdiv 4 - year.fdiv 100 + year.fdiv 400

/-- The February before a March has a day more in a leap year. -/
theorem marchStart_eq (year : Int) :
    marchStart year = marchStart (year - 1) + if isLeap year then 366 else 365 := by
  -- floor division by a positive number is the division that omega knows
  have hfloor (y : Int) : y.fdiv 4 = y / 4 ∧ y.fdiv 100 = y / 100 ∧ y.fdiv 400 = y / 400 :=
    ⟨Int.fdiv_eq_ediv_of_nonneg y (by decide), Int.fdiv_eq_ediv_of_nonneg y (by decide),
      Int.fdiv_eq_ediv_of_nonneg y (by decide)⟩
  have hleap : isLeap year = true ↔ year % 4 = 0 ∧ (year % 100 ≠ 0 ∨ year % 400 = 0) := by
    simp [isLeap]
  simp only [marchStart, hfloor, hleap]
  by_cases hfour : year % 4 = 0
  · by_cases hcentury : year % 100 = 0
    · by_cases hera : year % 400 = 0
      · rw [if_pos ⟨hfour, .inr hera⟩]
        omega
      · rw [if_neg (by tauto)]
        omega
    · rw [if_pos ⟨hfour, .inl hcentury⟩]
      omega
  · rw [if_neg (by tauto)]
    omega

/-- January and February still count from the March of the year before. -/
theorem dayNumber_eq (year : Int) (month day : Nat) :
    dayNumber year month day = (if month ≤ 2 then marchStart (year - 1) else marchStart year) +
      (153 * ((month + 9) % 12 : Nat) + 2) / 5 + day - 1 := by
  rw [dayNumber]
  split <;> rfl

theorem dayNumber_nextMonth (year : Int) {month : Nat} (hpos : 0 < month) (hlt : month < 12) :
    dayNumber year (month + 1) 1 = dayNumber year month 1 + monthLength year month := by
  have hmarch := marchStart_eq year
  rw [dayNumber_eq, dayNumber_eq]
  cases hleap : isLeap year with
  | true =>
      rw [hleap, if_pos rfl] at hmarch
      interval_cases month <;> simp [monthLength, hleap] <;> omega
  | false =>
      rw [hleap, if_neg Bool.false_ne_true] at hmarch
      interval_cases month <;> simp [monthLength, hleap] <;> omega

theorem dayNumber_nextYear (year : Int) :
    dayNumber (year + 1) 1 1 = dayNumber year 12 1 + monthLength year 12 := by
  rw [dayNumber_eq, dayNumber_eq]
  simp [monthLength]
  omega

theorem monthLength_le (year : Int) (month : Nat) : monthLength year month ≤ 31 := by
  rw [monthLength]
  split
  · split <;> decide
  · split <;> decide

/-- The first day of a month; the months are counted from the January of the year zero. -/
def monthStart (n : Nat) : Int := dayNumber (n / 12 : Nat) (n % 12 + 1) 1

/-- The length of a month that is counted so. -/
def lengthOf (n : Nat) : Nat := monthLength (n / 12 : Nat) (n % 12 + 1)

/-- Each month begins on the day after the last of the month before. -/
theorem monthStart_succ (n : Nat) : monthStart (n + 1) = monthStart n + lengthOf n := by
  rw [monthStart, monthStart, lengthOf]
  by_cases hlast : n % 12 = 11
  · have hyear : (n + 1) / 12 = n / 12 + 1 := by omega
    have hmonth : (n + 1) % 12 = 0 := by omega
    rw [hyear, hmonth, hlast]
    exact dayNumber_nextYear (n / 12 : Nat)
  · have hyear : (n + 1) / 12 = n / 12 := by omega
    have hmonth : (n + 1) % 12 = n % 12 + 1 := by omega
    rw [hyear, hmonth]
    exact dayNumber_nextMonth (n / 12 : Nat) (by omega) (by omega)

theorem monthStart_add_lengthOf_le {n n' : Nat} (h : n < n') :
    monthStart n + lengthOf n ≤ monthStart n' := by
  induction n' with
  | zero => exact absurd h (Nat.not_lt_zero n)
  | succ n' ih =>
      have hstep := monthStart_succ n'
      by_cases hlt : n < n'
      · have hbefore := ih hlt
        omega
      · obtain rfl : n = n' := by omega
        omega

/-! ### Digits -/

theorem toList_padded_one {n : Nat} (h : n < 10) : (padded 1 n).toList = [Nat.digitChar n] := by
  simp [padded, Nat.toDigits_of_lt_base h]

/-- The last place of a number, behind the places of its tenth. -/
theorem toList_padded_succ (width n : Nat) :
    (padded (width + 2) n).toList =
      (padded (width + 1) (n / 10)).toList ++ [Nat.digitChar (n % 10)] := by
  simp only [padded, Nat.toString_eq_repr, Nat.toList_repr, String.toList_ofList]
  by_cases h : n < 10
  · have hzero : n / 10 = 0 := by omega
    have hsame : n % 10 = n := by omega
    rw [hzero, hsame, Nat.toDigits_of_lt_base h, Nat.toDigits_of_lt_base (by decide)]
    simp [List.replicate_succ']
  · rw [Nat.toDigits_of_base_le (by decide) (by omega)]
    simp

theorem length_padded {width n : Nat} (h : n < 10 ^ (width + 1)) :
    (padded (width + 1) n).toList.length = width + 1 := by
  induction width generalizing n with
  | zero =>
      rw [toList_padded_one (by simpa using h)]
      rfl
  | succ width ih =>
      rw [toList_padded_succ, List.length_append, ih (by omega)]
      rfl

theorem digitChar_lt {a b : Nat} (h : a < b) (hb : b < 10) : Nat.digitChar a < Nat.digitChar b := by
  change (Nat.digitChar a).toNat < (Nat.digitChar b).toNat
  rw [Nat.toNat_digitChar_of_lt_ten (by omega), Nat.toNat_digitChar_of_lt_ten hb]
  omega

/-- What stands behind two texts of one length makes no difference where they differ. -/
theorem append_lt_append {xs ys : List Char} (hlength : xs.length = ys.length) (h : xs < ys)
    (s t : List Char) : xs ++ s < ys ++ t := by
  induction xs generalizing ys with
  | nil =>
      obtain rfl := List.length_eq_zero_iff.mp hlength.symm
      exact absurd h (List.not_lt_nil [])
  | cons x xs ih =>
      cases ys with
      | nil => exact absurd h (List.not_lt_nil _)
      | cons y ys =>
          rw [List.cons_lt_cons_iff] at h
          rw [List.cons_append, List.cons_append, List.cons_lt_cons_iff]
          rcases h with hlt | ⟨heq, hrest⟩
          · exact .inl hlt
          · exact .inr ⟨heq, ih (Nat.succ.inj hlength) hrest⟩

/-- Numbers with the same number of places compare like their digits. -/
theorem padded_lt {width a b : Nat} (h : a < b) (hb : b < 10 ^ (width + 1)) :
    (padded (width + 1) a).toList < (padded (width + 1) b).toList := by
  induction width generalizing a b with
  | zero =>
      have hten : b < 10 := by simpa using hb
      rw [toList_padded_one (by omega), toList_padded_one hten]
      exact List.cons_lt_cons_iff.mpr (.inl (digitChar_lt h hten))
  | succ width ih =>
      rw [toList_padded_succ, toList_padded_succ]
      have hb' : b / 10 < 10 ^ (width + 1) := by omega
      by_cases htenths : a / 10 < b / 10
      · have ha' : a / 10 < 10 ^ (width + 1) := htenths.trans hb'
        have hlength := (length_padded ha').trans (length_padded hb').symm
        exact append_lt_append hlength (ih htenths hb') _ _
      · have heq : a / 10 = b / 10 := by omega
        rw [heq]
        apply List.append_left_lt
        exact List.cons_lt_cons_iff.mpr (.inl (digitChar_lt (by omega) (by omega)))

/-! ### Fields -/

/-- How many digits each field of a time stamp has, and what stands behind it. -/
def form : List (Nat × Char) :=
  [(4, '-'), (2, '-'), (2, 'T'), (2, ':'), (2, ':'), (2, '.'), (3, 'Z')]

/-- Numbers in the places of a form. -/
def layout : List (Nat × Char) → List Nat → List Char
  | (width, mark) :: form, n :: ns => (padded width n).toList ++ mark :: layout form ns
  | _, _ => []

/-- Each number fits the place that a form has for it. -/
inductive Fits : List (Nat × Char) → List Nat → Prop where
  | nil : Fits [] []
  | cons {width n : Nat} {mark : Char} {form : List (Nat × Char)} {ns : List Nat} :
      n < 10 ^ (width + 1) → Fits form ns → Fits ((width + 1, mark) :: form) (n :: ns)

/-- In the places of a form, numbers compare like their texts, the first that differs deciding. -/
theorem layout_lt {form : List (Nat × Char)} {ns ns' : List Nat} (h : Fits form ns)
    (h' : Fits form ns') (hlt : ns < ns') : layout form ns < layout form ns' := by
  induction h generalizing ns' with
  | nil =>
      cases h'
      exact absurd hlt (List.not_lt_nil [])
  | @cons width n mark form ns hn hrest ih =>
      cases h' with
      | cons hn' hrest' =>
          rw [layout, layout]
          rcases List.cons_lt_cons_iff.mp hlt with hlt | ⟨rfl, hbehind⟩
          · have hlength := (length_padded hn).trans (length_padded hn').symm
            exact append_lt_append hlength (padded_lt hlt hn') _ _
          · apply List.append_left_lt
            exact List.cons_lt_cons_iff.mpr (.inr ⟨rfl, ih hrest' hbehind⟩)

/-! ### Moments -/

/-- A moment in universal time to the millisecond, in a year of four digits. -/
structure Moment where
  year : Nat
  month : Nat
  day : Nat
  hour : Nat
  minute : Nat
  second : Nat
  milli : Nat
  year_lt : year < 10000
  month_pos : 0 < month
  month_le : month ≤ 12
  day_pos : 0 < day
  day_le : day ≤ monthLength year month
  hour_lt : hour < 24
  minute_lt : minute < 60
  second_lt : second < 60
  milli_lt : milli < 1000

namespace Moment

/-- The fields of a moment, the largest first. -/
def fields (m : Moment) : List Nat :=
  [m.year, m.month, m.day, m.hour, m.minute, m.second, m.milli]

/-- The time stamp of a moment. -/
def text (m : Moment) : String := String.ofList (layout form m.fields)

/-- The milliseconds up to a moment, counted from the first of March of the year zero. -/
def instant (m : Moment) : Int :=
  (((dayNumber m.year m.month m.day * 24 + m.hour) * 60 + m.minute) * 60 + m.second) * 1000 +
    m.milli

/-- The months up to a moment. -/
def monthCount (m : Moment) : Nat := 12 * m.year + (m.month - 1)

variable {m m' : Moment}

theorem dayNumber_eq_monthStart (m : Moment) :
    dayNumber m.year m.month m.day = monthStart m.monthCount + (m.day - 1) ∧
      lengthOf m.monthCount = monthLength m.year m.month := by
  have hpos := m.month_pos
  have hle := m.month_le
  have hyear : m.monthCount / 12 = m.year := by
    rw [monthCount]
    omega
  have hmonth : m.monthCount % 12 + 1 = m.month := by
    rw [monthCount]
    omega
  rw [monthStart, lengthOf, hyear, hmonth, dayNumber_eq, dayNumber_eq]
  omega

/-- A later day in the order of year, month and day has a greater number. -/
theorem dayNumber_lt
    (h : m.monthCount < m'.monthCount ∨ m.monthCount = m'.monthCount ∧ m.day < m'.day) :
    dayNumber m.year m.month m.day < dayNumber m'.year m'.month m'.day := by
  obtain ⟨hday, hlength⟩ := m.dayNumber_eq_monthStart
  obtain ⟨hday', -⟩ := m'.dayNumber_eq_monthStart
  have hle := m.day_le
  have hpos := m'.day_pos
  rw [hday, hday']
  rcases h with h | ⟨h, hlt⟩
  · have hmonths := monthStart_add_lengthOf_le h
    omega
  · rw [h]
    omega

theorem instant_lt_of_fields_lt (h : m.fields < m'.fields) : m.instant < m'.instant := by
  have hmonth := m.month_pos
  have hmonth' := m'.month_pos
  have hyear := m.month_le
  have hyear' := m'.month_le
  have hhour := m.hour_lt
  have hminute := m.minute_lt
  have hsecond := m.second_lt
  have hmilli := m.milli_lt
  simp only [fields, List.cons_lt_cons_iff, List.not_lt_nil, and_false, or_false] at h
  by_cases hsame : m.year = m'.year ∧ m.month = m'.month ∧ m.day = m'.day
  · obtain ⟨hy, hm, hd⟩ := hsame
    rw [instant, instant, hy, hm, hd]
    omega
  · have hdays : dayNumber m.year m.month m.day < dayNumber m'.year m'.month m'.day := by
      apply dayNumber_lt
      rw [monthCount, monthCount]
      omega
    rw [instant, instant]
    omega

theorem fits_fields (m : Moment) : Fits form m.fields := by
  have hyear := m.year_lt
  have hmonth := m.month_le
  have hday := m.day_le.trans (monthLength_le m.year m.month)
  have hhour := m.hour_lt
  have hminute := m.minute_lt
  have hsecond := m.second_lt
  have hmilli := m.milli_lt
  refine .cons ?_ (.cons ?_ (.cons ?_ (.cons ?_ (.cons ?_ (.cons ?_ (.cons ?_ .nil)))))) <;> omega

theorem text_lt_of_fields_lt (h : m.fields < m'.fields) : m.text < m'.text := by
  rw [String.lt_iff, text, text, String.toList_ofList, String.toList_ofList]
  exact layout_lt m.fits_fields m'.fits_fields h

theorem eq_of_fields_eq (h : m.fields = m'.fields) : m = m' := by
  cases m
  cases m'
  simpa [fields] using h

/-- Texts and moments have one order. -/
theorem text_le_iff : m.text ≤ m'.text ↔ m.instant ≤ m'.instant := by
  by_cases hlt : m.fields < m'.fields
  · have htext := text_lt_of_fields_lt hlt
    have hinstant := instant_lt_of_fields_lt hlt
    exact iff_of_true (String.not_lt.mp (String.lt_asymm htext)) (Int.le_of_lt hinstant)
  · by_cases hgt : m'.fields < m.fields
    · have htext := text_lt_of_fields_lt hgt
      have hinstant := instant_lt_of_fields_lt hgt
      exact iff_of_false (String.not_le.mpr htext) (Int.not_le.mpr hinstant)
    · obtain rfl := eq_of_fields_eq (List.le_antisymm (List.not_lt.mp hgt) (List.not_lt.mp hlt))
      exact iff_of_true (String.le_refl _) (Int.le_refl _)

-- the last of February in a leap year
example (m : Moment) (h : m.fields = [2024, 2, 29, 8, 5, 0, 7]) :
    m.text = "2024-02-29T08:05:00.007Z" := by
  rw [text, h]
  decide

end Moment

end ScalingTrials.Wire.Timestamp
