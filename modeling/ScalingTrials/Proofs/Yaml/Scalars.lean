import Mathlib.Tactic.SplitIfs
import ScalingTrials.Yaml.Flow
import ScalingTrials.Yaml.Writer

/-! # Reading written scalars

A written scalar is read back whatever follows it on its line. The accumulated
text and the pending gap stay arbitrary, so that the inductions follow the text. -/

namespace ScalingTrials.Yaml

/-- The place behind some characters. -/
def Pos.after (p : Pos) (cs : List Char) : Pos := cs.foldl Pos.next p

@[simp] theorem Pos.after_nil (p : Pos) : p.after [] = p := rfl

@[simp] theorem Pos.after_cons (p : Pos) (c : Char) (cs : List Char) :
    p.after (c :: cs) = (p.next c).after cs := rfl

theorem Pos.after_append (p : Pos) (cs ds : List Char) :
    p.after (cs ++ ds) = (p.after cs).after ds := by
  simp [Pos.after]

theorem Pos.column_next {c : Char} (h : c ≠ '\n') (p : Pos) :
    (p.next c).column = p.column + 1 := by
  simp [Pos.next, h]

theorem Pos.index_after (p : Pos) (cs : List Char) :
    (p.after cs).index = p.index + cs.length := by
  induction cs generalizing p with
  | nil => simp
  | cons c cs ih =>
      have hn : (p.next c).index = p.index + 1 := by
        unfold Pos.next
        split <;> rfl
      rw [Pos.after_cons, ih, hn, List.length_cons]
      omega

/-- Text without a line feed stays on its line. -/
theorem Pos.line_column_after {cs : List Char} (h : '\n' ∉ cs) (p : Pos) :
    (p.after cs).line = p.line ∧ (p.after cs).column = p.column + cs.length := by
  induction cs generalizing p with
  | nil => simp
  | cons c cs ih =>
      have hc : c ≠ '\n' := fun hc => h (by simp [hc])
      have hcs := ih (fun hm => h (by simp [hm])) (p.next c)
      rw [Pos.after_cons]
      refine ⟨by simpa [Pos.next, hc] using hcs.1, ?_⟩
      rw [hcs.2, Pos.column_next hc, List.length_cons]
      omega

/-! ### Plain scalars -/

/-- What the writer leaves plain: text that neither starts nor goes on like another token. -/
structure IsPlain (cs : List Char) : Prop where
  nonempty : cs ≠ []
  opens : ∀ c ∈ cs.head?, opensOther c = false
  inner : ∀ c ∈ cs, breaksPlain c = false
  closes : cs.getLast? ≠ some ' '

theorem isPlain_of_needsQuotes_eq_false {s : String} (h : needsQuotes s = false) :
    IsPlain s.toList := by
  unfold needsQuotes at h
  cases hs : s.toList with
  | nil => simp [hs] at h
  | cons c cs =>
      simp only [hs, Bool.or_eq_false_iff] at h
      obtain ⟨⟨⟨⟨⟨hopens, hlast⟩, -⟩, hinner⟩, -⟩, -⟩ := h
      refine ⟨by simp, by simpa using hopens, ?_, by simpa using hlast⟩
      simpa using hinner

theorem not_isBreak_of_breaksPlain_eq_false {c : Char} (h : breaksPlain c = false) :
    isBreak c = false := by
  simp only [breaksPlain, Bool.or_eq_false_iff] at h
  simp only [isBreak, Bool.or_eq_false_iff]
  exact ⟨h.1.1.1.1.2, h.1.1.1.2⟩

theorem isBlank_eq_of_breaksPlain_eq_false {c : Char} (h : breaksPlain c = false) :
    isBlank c = (c == ' ') := by
  simp only [breaksPlain, Bool.or_eq_false_iff] at h
  simp [isBlank, h.1.1.1.1.1.2]

theorem text_blank {gap : Gap} (h : gap.isBroken = false) (c : Char) :
    (gap.blank c).text = c :: gap.text := by
  cases gap <;> simp_all [Gap.blank, Gap.text, Gap.isBroken]

theorem isBroken_blank (gap : Gap) (c : Char) : (gap.blank c).isBroken = gap.isBroken := by
  cases gap <;> rfl

theorem ne_lineFeed_of_breaksPlain_eq_false {c : Char} (h : breaksPlain c = false) : c ≠ '\n' := by
  rintro rfl
  simp [breaksPlain] at h

theorem getLast?_tail_ne {c d : Char} {cs : List Char} (h : (c :: cs).getLast? ≠ some d) :
    cs.getLast? ≠ some d := by
  intro hd
  apply h
  cases cs with
  | nil => simp at hd
  | cons e es => simpa [List.getLast?_cons_cons] using hd

/-- Behind the first character of its line a plain scalar goes on with every
character that it may hold, except that blanks at its end do not belong to it. -/
theorem plainFrom_append {indent : Nat} {cs : List Char}
    (hinner : ∀ c ∈ cs, breaksPlain c = false) (hlast : cs.getLast? ≠ some ' ') (rest : List Char)
    {pos : Pos} (hcol : 0 < pos.column ∧ indent ≤ pos.column) {gap : Gap}
    (hgap : gap.isBroken = false) (hnil : cs = [] → gap = .none) (acc : List Char) :
    plainFrom false indent (cs ++ rest) pos gap acc =
      plainFrom false indent rest (pos.after cs) .none (cs.reverse ++ (gap.text ++ acc)) := by
  induction cs generalizing pos gap acc with
  | nil => simp [hnil rfl, Gap.text]
  | cons c cs ih =>
      have hc := hinner c (by simp)
      have hbreak := not_isBreak_of_breaksPlain_eq_false hc
      have hblank := isBlank_eq_of_breaksPlain_eq_false hc
      have hne := ne_lineFeed_of_breaksPlain_eq_false hc
      have hcol' : 0 < (pos.next c).column ∧ indent ≤ (pos.next c).column := by
        rw [Pos.column_next hne]
        omega
      have hinner' : ∀ d ∈ cs, breaksPlain d = false := fun d hd => hinner d (by simp [hd])
      have hlast' := getLast?_tail_ne hlast
      rw [List.cons_append, plainFrom, hbreak, hblank]
      by_cases hsp : c = ' '
      · subst hsp
        have hcs : cs ≠ [] := by
          rintro rfl
          simp at hlast
        simp only [Bool.false_eq_true, if_false, beq_self_eq_true, if_true, hgap, Bool.false_and]
        rw [ih hinner' hlast' hcol' (by rw [isBroken_blank, hgap]) (fun h => absurd h hcs),
          text_blank hgap]
        simp
      · have hends : plainEnds false indent gap pos c (cs ++ rest) = false := by
          simp only [breaksPlain, Bool.or_eq_false_iff] at hc
          have hcolon : (c == ':') = false := by simp_all
          have hhash : (c == '#') = false := by simp_all
          simp [plainEnds, hcolon, hhash, Nat.not_lt.2 hcol.2, Nat.ne_of_gt hcol.1]
        simp only [Bool.false_eq_true, if_false, beq_eq_false_iff_ne.2 hsp, hends]
        rw [ih hinner' hlast' hcol' rfl (fun _ => rfl)]
        simp [Gap.text]

/-- A plain scalar may start one column to the left of where its lines go on. -/
theorem plainFrom_plain {cs : List Char} (h : IsPlain cs) (rest : List Char) (indent : Nat)
    (pos : Pos) (hcol : indent ≤ pos.column + 1) (acc : List Char) :
    plainFrom false indent (cs ++ rest) pos .none acc =
      plainFrom false indent rest (pos.after cs) .none (cs.reverse ++ acc) := by
  cases cs with
  | nil => exact absurd rfl h.nonempty
  | cons c cs =>
      have hc := h.inner c (by simp)
      have hbreak := not_isBreak_of_breaksPlain_eq_false hc
      have hblank : isBlank c = false := by
        have hopens := h.opens c (by simp)
        simp only [opensOther, Bool.or_eq_false_iff] at hopens
        rw [isBlank_eq_of_breaksPlain_eq_false hc]
        exact hopens.2
      have hends : plainEnds false indent .none pos c (cs ++ rest) = false := by
        simp only [breaksPlain, Bool.or_eq_false_iff] at hc
        have hcolon : (c == ':') = false := by simp_all
        simp [plainEnds, hcolon]
      have hne := ne_lineFeed_of_breaksPlain_eq_false hc
      have hlast := getLast?_tail_ne h.closes
      rw [List.cons_append, plainFrom, hbreak, hblank, hends]
      simp only [Bool.false_eq_true, if_false]
      rw [plainFrom_append (fun d hd => h.inner d (by simp [hd])) hlast rest
        (by rw [Pos.column_next hne]; omega) rfl (fun _ => rfl)]
      simp [Gap.text]

/-- A plain scalar ends before a colon that a gap follows. -/
theorem plainFrom_colon (inFlow : Bool) (indent : Nat) {rest : List Char}
    (hrest : atGap rest = true)
    (pos : Pos) (acc : List Char) :
    plainFrom inFlow indent (':' :: rest) pos .none acc =
      some ⟨acc, ⟨':' :: rest, pos⟩, false⟩ := by
  simp [plainFrom, plainEnds, isBreak, isBlank, hrest, Gap.isBroken]

/-- Whether text starts with a character that is neither blank nor a line break. -/
def startsInk : List Char → Bool
  | [] => true
  | c :: _ => !isBlank c && !isBreak c

theorem Pos.column_after_blanks (p : Pos) (k : Nat) :
    (p.after (List.replicate k ' ')).column = p.column + k := by
  have hblanks : '\n' ∉ List.replicate k ' ' := by simp [List.mem_replicate]
  rw [(Pos.line_column_after hblanks p).2, List.length_replicate]

/-- The blanks in front of a line do not count. -/
theorem plainFrom_blanks (indent k : Nat) (rest : List Char) (pos : Pos) (further : Nat)
    (acc : List Char) :
    plainFrom false indent (List.replicate k ' ' ++ rest) pos (.folded further) acc =
      plainFrom false indent rest (pos.after (List.replicate k ' ')) (.folded further) acc := by
  induction k generalizing pos with
  | zero => rfl
  | succ k ih =>
      rw [List.replicate_succ, List.cons_append, plainFrom]
      simp [isBreak, isBlank, Gap.blank, ih]

/-- A plain scalar ends with its line if the next is indented less. -/
theorem plainFrom_lineFeed {indent k : Nat} (hindent : k < indent) {rest : List Char}
    (hrest : startsInk rest = true) (pos : Pos) (acc : List Char) :
    plainFrom false indent ('\n' :: (List.replicate k ' ' ++ rest)) pos .none acc =
      some ⟨acc, ⟨rest, pos.after ('\n' :: List.replicate k ' ')⟩, true⟩ := by
  have hcol : ((pos.next '\n').after (List.replicate k ' ')).column = k := by
    rw [Pos.column_after_blanks]
    exact Nat.zero_add k
  rw [plainFrom]
  simp only [show isBreak '\n' = true from rfl, if_true, Gap.lineBreak, Pos.after_cons]
  rw [plainFrom_blanks]
  cases rest with
  | nil => rfl
  | cons c rest =>
      simp only [startsInk, Bool.and_eq_true, Bool.not_eq_true'] at hrest
      have hends : plainEnds false indent (.folded 0)
          ((pos.next '\n').after (List.replicate k ' ')) c rest = true := by
        simp [plainEnds, hcol, hindent]
      rw [plainFrom, hrest.1, hrest.2, hends]
      rfl

/-! ### Double-quoted scalars -/

/-- An escape is the character itself, a letter that stands for it, or its number. -/
inductive EscapeOf (c : Char) : List Char → Prop where
  | plain : c ≠ '"' → c ≠ '\\' → c ≠ '\t' → c ≠ '\x00' → isBreak c = false → EscapeOf c [c]
  | letter (l : Char) : l ≠ '\x00' → isBreak l = false → escaped? l = some c →
      EscapeOf c ['\\', l]
  | number (i j : Nat) : i < 16 → j < 16 → c.toNat = 16 * i + j →
      EscapeOf c ['\\', 'u', '0', '0', i.digitChar, j.digitChar]

theorem hexDigits_of_lt_sixteen {n : Nat} (h : n < 16) :
    Text.hexDigits n = [n.digitChar] := by
  rw [Text.hexDigits, Nat.toDigits_of_lt_base h]

theorem hexValue?_digitChar {n : Nat} (h : n < 16) : hexValue? n.digitChar = some n := by
  have hall : ∀ n < 16, hexValue? (Nat.digitChar n) = some n := by decide
  exact hall n h

theorem hexDigits_of_sixteen_le {n : Nat} (h : 16 ≤ n) (h' : n / 16 < 16) :
    Text.hexDigits n = [(n / 16).digitChar, (n % 16).digitChar] := by
  rw [Text.hexDigits, Nat.toDigits_of_base_le (by decide) h, Nat.toDigits_of_lt_base h']
  rfl

theorem escapeOf_escape (c : Char) : EscapeOf c (escape c) := by
  unfold escape
  split_ifs with hquote hback hbell htab hfeed hform hreturn hlow hcontrol
  · subst hquote
    exact .letter _ (by decide) rfl rfl
  · subst hback
    exact .letter _ (by decide) rfl rfl
  · subst hbell
    exact .letter _ (by decide) rfl rfl
  · subst htab
    exact .letter _ (by decide) rfl rfl
  · subst hfeed
    exact .letter _ (by decide) rfl rfl
  · subst hform
    exact .letter _ (by decide) rfl rfl
  · subst hreturn
    exact .letter _ (by decide) rfl rfl
  · rw [hexDigits_of_lt_sixteen hlow]
    exact .number 0 c.toNat (by decide) hlow (by omega)
  · rw [hexDigits_of_sixteen_le (by omega) (by omega)]
    exact .number (c.toNat / 16) (c.toNat % 16) (by omega) (by omega) (by omega)
  · have hnull : c ≠ '\x00' := by
      rintro rfl
      exact hlow (by decide)
    exact .plain hquote hback htab hnull (by simp [isBreak, hfeed, hreturn])

theorem charOf?_toNat (c : Char) : charOf? c.toNat = some c := by
  have hvalid : c.toNat.isValidChar := c.valid
  simp [charOf?, hvalid]

/-- Behind the backslash and the letter, four digits are read as a number. -/
theorem doubleFrom_number {c : Char} {i j : Nat} (hi : i < 16) (hj : j < 16)
    (hc : c.toNat = 16 * i + j) (rest : List Char) (pos : Pos) (gap : Gap) (acc : List Char) :
    doubleFrom ('0' :: '0' :: i.digitChar :: j.digitChar :: rest) pos (.digits 4 0) gap acc =
      doubleFrom rest (pos.after ['0', '0', i.digitChar, j.digitChar]) .no .none (c :: acc) := by
  have hzero : hexValue? '0' = some 0 := rfl
  have hnum : charOf? (16 * i + j) = some c := by
    rw [← hc]
    exact charOf?_toNat c
  simp only [doubleFrom, hzero, hexValue?_digitChar hi, hexValue?_digitChar hj]
  simp [hnum]

/-- A character behind the opening quote is read from its escape. -/
theorem doubleFrom_escapeOf {c : Char} {cs : List Char} (h : EscapeOf c cs) (rest : List Char)
    {pos : Pos} (hcol : 0 < pos.column) {gap : Gap} (hgap : gap.isBroken = false)
    (acc : List Char) :
    ∃ gap' acc', gap'.isBroken = false ∧ gap'.text ++ acc' = c :: (gap.text ++ acc) ∧
      doubleFrom (cs ++ rest) pos .no gap acc =
        doubleFrom rest (pos.after cs) .no gap' acc' := by
  have hmark : (pos.column == 0) = false := by simpa using Nat.ne_of_gt hcol
  have hslash : ∀ tail, doubleFrom ('\\' :: tail) pos .no gap acc =
      doubleFrom tail (pos.next '\\') .letter .none (gap.text ++ acc) := by
    intro tail
    simp [doubleFrom, isBreak, isBlank, hmark]
  cases h with
  | plain hquote hback htab _ hbreak =>
      by_cases hsp : c = ' '
      · subst hsp
        refine ⟨gap.blank ' ', acc, by rw [isBroken_blank, hgap], ?_, ?_⟩
        · rw [text_blank hgap]
          rfl
        · simp [doubleFrom, isBreak, isBlank]
      · refine ⟨.none, c :: (gap.text ++ acc), rfl, rfl, ?_⟩
        simp [doubleFrom, hbreak, isBlank, hsp, htab, hmark, hquote, hback]
  | letter l _ hbreak hl =>
      refine ⟨.none, c :: (gap.text ++ acc), rfl, rfl, ?_⟩
      rw [List.cons_append, hslash]
      simp [doubleFrom, hbreak, hl]
  | number i j hi hj hc =>
      refine ⟨.none, c :: (gap.text ++ acc), rfl, rfl, ?_⟩
      rw [List.cons_append, hslash, List.cons_append]
      have hu : ∀ tail pos' acc', doubleFrom ('u' :: tail) pos' .letter .none acc' =
          doubleFrom tail (pos'.next 'u') (.digits 4 0) .none acc' := by
        intro tail pos' acc'
        simp [doubleFrom, isBreak, escaped?, hexCount?]
      rw [hu]
      exact doubleFrom_number hi hj hc rest _ _ _

/-- Characters of a text on one line that nothing cuts short. -/
def StaysOnLine (cs : List Char) : Prop := ∀ c ∈ cs, isBreak c = false ∧ c ≠ '\x00'

theorem StaysOnLine.lineFeed_notMem {cs : List Char} (h : StaysOnLine cs) : '\n' ∉ cs := by
  intro hm
  have hbreak := (h '\n' hm).1
  simp [isBreak] at hbreak

theorem StaysOnLine.append {cs ds : List Char} (h : StaysOnLine cs) (h' : StaysOnLine ds) :
    StaysOnLine (cs ++ ds) := by
  intro c hc
  rcases List.mem_append.mp hc with hc | hc
  · exact h c hc
  · exact h' c hc

theorem EscapeOf.staysOnLine {c : Char} {cs : List Char} (h : EscapeOf c cs) :
    StaysOnLine cs := by
  have hdigit : ∀ n < 16, isBreak (Nat.digitChar n) = false ∧ Nat.digitChar n ≠ '\x00' := by
    decide
  cases h with
  | plain _ _ _ hnull hbreak => simp [StaysOnLine, hnull, hbreak]
  | letter l hnull hbreak _ =>
      simp only [StaysOnLine, List.forall_mem_cons]
      exact ⟨by decide, ⟨hbreak, hnull⟩, by simp⟩
  | number i j hi hj _ =>
      simp only [StaysOnLine, List.forall_mem_cons]
      exact ⟨by decide, by decide, by decide, by decide, hdigit i hi, hdigit j hj, by simp⟩

/-- Behind its opening quote, a text is read up to the closing one, each character from
an escape. -/
theorem doubleFrom_escaped {escaped : Char → List Char} {cs : List Char}
    (h : ∀ c ∈ cs, EscapeOf c (escaped c)) (rest : List Char) {pos : Pos} (hcol : 0 < pos.column)
    {gap : Gap} (hgap : gap.isBroken = false) (acc : List Char) :
    doubleFrom (cs.flatMap escaped ++ '"' :: rest) pos .no gap acc =
      some ⟨cs.reverse ++ (gap.text ++ acc),
        ⟨rest, pos.after (cs.flatMap escaped ++ ['"'])⟩, false⟩ := by
  induction cs generalizing pos gap acc with
  | nil =>
      have hmark : (pos.column == 0) = false := by simpa using Nat.ne_of_gt hcol
      simp [doubleFrom, isBreak, isBlank, hmark]
  | cons c cs ih =>
      have hc := h c (by simp)
      obtain ⟨gap', acc', hgap', htext, hstep⟩ :=
        doubleFrom_escapeOf hc (cs.flatMap escaped ++ '"' :: rest) hcol hgap acc
      have hcol' : 0 < (pos.after (escaped c)).column := by
        rw [(Pos.line_column_after hc.staysOnLine.lineFeed_notMem pos).2]
        omega
      rw [List.flatMap_cons, List.append_assoc, hstep,
        ih (fun d hd => h d (by simp [hd])) hcol' hgap', htext]
      simp [Pos.after_append]

/-! ### Written scalars -/

theorem scalar_of_plain {v : String} (h : needsQuotes v = false) : scalar v = v := by
  simp [scalar, h]

theorem scalar_of_needsQuotes {v : String} (h : needsQuotes v = true) :
    (scalar v).toList = '"' :: (v.toList.flatMap escape ++ ['"']) := by
  simp [scalar, h]

theorem IsPlain.staysOnLine {cs : List Char} (h : IsPlain cs) : StaysOnLine cs := by
  intro c hc
  refine ⟨not_isBreak_of_breaksPlain_eq_false (h.inner c hc), ?_⟩
  rintro rfl
  exact absurd (h.inner _ hc) (by decide)

end ScalingTrials.Yaml
