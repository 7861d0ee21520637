import ScalingTrials.Yaml.Scalar

/-! # Words among plain scalars

A plain scalar that starts with a letter is no number, whatever follows: digits, exponents
and the names of numbers included. All but three such words are read as text. -/

namespace ScalingTrials.Yaml.Scalar

/-- Letters of the alphabet, small and capital. -/
def isLetter (c : Char) : Bool := ('a' ≤ c && c ≤ 'z') || ('A' ≤ c && c ≤ 'Z')

variable {c : Char}

theorem le_iff_toNat (c d : Char) : c ≤ d ↔ c.toNat ≤ d.toNat := Iff.rfl

theorem toNat_of_isLetter (h : isLetter c = true) :
    97 ≤ c.toNat ∧ c.toNat ≤ 122 ∨ 65 ≤ c.toNat ∧ c.toNat ≤ 90 := by
  simpa [isLetter, le_iff_toNat] using h

theorem ne_of_isLetter (h : isLetter c = true) {d : Char} (hd : isLetter d = false) : c ≠ d := by
  rintro rfl
  rw [h] at hd
  cases hd

theorem isDigit_of_isLetter (h : isLetter c = true) : Binary64.isDigit c = false := by
  have hrange := toNat_of_isLetter h
  simp [Binary64.isDigit, le_iff_toNat]
  omega

/-- A letter is no decimal digit. -/
theorem digit?_of_isLetter (h : isLetter c = true) : digit? 10 c = none := by
  have hrange := toNat_of_isLetter h
  have hnine : ¬c ≤ '9' := by
    rw [le_iff_toNat]
    simp
    omega
  unfold digit? hexValue?
  rw [if_neg (not_and_of_not_right _ hnine)]
  split
  · next hlow =>
      have hlow' := (le_iff_toNat 'a' c).mp hlow.1
      simp at hlow' ⊢
      omega
  · split
    · simp
      omega
    · rfl

theorem digits?_of_isLetter (h : isLetter c = true) (cs : List Char) :
    digits? 10 (c :: cs) = none := by
  have hnone : ∀ cs : List Char, cs.foldl (fun n? c => n?.bind fun n =>
      (digit? 10 c).map fun d => 10 * n + d) none = none := by
    intro cs
    induction cs with
    | nil => rfl
    | cons c cs ih => exact ih
  simp [digits?, digit?_of_isLetter h, hnone]

theorem ofBase?_of_isLetter (h : isLetter c = true) (cs : List Char) :
    ofBase? (c :: cs) = none := by
  have hminus := ne_of_isLetter h (d := '-') rfl
  have hplus := ne_of_isLetter h (d := '+') rfl
  have hzero := ne_of_isLetter h (d := '0') rfl
  unfold ofBase?
  split <;> simp_all

theorem hasLeadingZero_of_isLetter (h : isLetter c = true) (cs : List Char) :
    hasLeadingZero (c :: cs) = false := by
  have hminus := ne_of_isLetter h (d := '-') rfl
  have hplus := ne_of_isLetter h (d := '+') rfl
  have hzero := ne_of_isLetter h (d := '0') rfl
  unfold hasLeadingZero
  rw [List.dropWhile_cons_of_neg (by simp [hminus, hplus])]
  split <;> simp_all

theorem ofDecimal?_of_isLetter (h : isLetter c = true) (cs : List Char) :
    ofDecimal? (c :: cs) = none := by
  have hminus := ne_of_isLetter h (d := '-') rfl
  have hplus := ne_of_isLetter h (d := '+') rfl
  have hdigits := digits?_of_isLetter h cs
  have hunsigned : unsigned? 10 (c :: cs) = none := by
    unfold unsigned?
    split <;> simp_all
  unfold ofDecimal?
  split <;> simp_all

theorem ofName?_of_isLetter (h : isLetter c = true) (cs : List Char) :
    ofName? (c :: cs) = none := by
  have hminus := ne_of_isLetter h (d := '-') rfl
  have hplus := ne_of_isLetter h (d := '+') rfl
  have hpoint := ne_of_isLetter h (d := '.') rfl
  have hnames : ∀ s ∈ [".inf", ".Inf", ".INF", "-.inf", "-.Inf", "-.INF", ".nan", ".NaN", ".NAN"],
      String.ofList (c :: cs) ≠ s := by
    have hstart : ∀ s ∈ [".inf", ".Inf", ".INF", "-.inf", "-.Inf", "-.INF", ".nan", ".NaN", ".NAN"],
        s.toList.head? = some '.' ∨ s.toList.head? = some '-' := by decide
    rintro s hs rfl
    rcases hstart _ hs with h | h
    · exact hpoint (by simpa using h)
    · exact hminus (by simpa using h)
  simp only [List.forall_mem_cons] at hnames
  unfold ofName?
  rw [List.dropWhile_cons_of_neg (by simpa using hplus)]
  simp only [hnames, or_self, if_false]

theorem ofLiteral?_of_isLetter (h : isLetter c = true) (cs : List Char) :
    Binary64.ofLiteral? (c :: cs) = none := by
  have hminus := ne_of_isLetter h (d := '-') rfl
  have hplus := ne_of_isLetter h (d := '+') rfl
  have hpoint := ne_of_isLetter h (d := '.') rfl
  have hdigit := isDigit_of_isLetter h
  have hsign : Binary64.splitSign (c :: cs) = (false, c :: cs) := by
    unfold Binary64.splitSign
    split <;> simp_all
  have hdecimal : Binary64.decimal? (c :: cs) = none := by
    simp only [Binary64.decimal?, hsign, List.takeWhile_cons, List.dropWhile_cons, hdigit]
    simp [hpoint]
  rw [Binary64.ofLiteral?, hdecimal]
  rfl

/-- Whether a text starts with a letter. -/
def startsWithLetter (s : String) : Bool := (s.toList.head?.map isLetter).getD false

/-- A word is read as text unless it is a truth value or stands for nothing. -/
theorem ofPlain_of_startsWithLetter {s : String} (h : startsWithLetter s = true)
    (hreserved : s ∉ ["null", "true", "false"]) : ofPlain s = .str s := by
  cases hs : s.toList with
  | nil => simp [startsWithLetter, hs] at h
  | cons c cs =>
      have hc : isLetter c = true := by simpa [startsWithLetter, hs] using h
      have hempty : s ≠ "" := by
        rintro rfl
        cases hs
      have htilde : s ≠ "~" := by
        rintro rfl
        cases hs
        cases hc
      simp only [List.mem_cons, List.not_mem_nil, or_false, not_or] at hreserved
      simp only [ofPlain, hs, hempty, htilde, hreserved, or_self, if_false, ofBase?_of_isLetter hc,
        hasLeadingZero_of_isLetter hc, ofDecimal?_of_isLetter hc, ofName?_of_isLetter hc,
        ofLiteral?_of_isLetter hc, Bool.false_eq_true]

end ScalingTrials.Yaml.Scalar
