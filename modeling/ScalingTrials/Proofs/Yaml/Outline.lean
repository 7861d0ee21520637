import ScalingTrials.Proofs.Yaml.Lines

/-! # Lines nested by indentation

A text of keys, one to a line, with a value behind a key or a deeper block below it. The
scanner goes from the text of one line to that of the next, and keeps the columns of the
blocks that are open; the marks of the blocks follow from the columns of the lines alone. -/

namespace ScalingTrials.Yaml

open Scanner

/-- A value as it is written: plain, or between quotes with escapes for its characters. -/
inductive Written where
  | plain (v : String)
  | quoted (escaped : Char → List Char) (v : String)

namespace Written

def text : Written → List Char
  | plain v => v.toList
  | quoted escaped v => quotedText escaped v

def token : Written → Token
  | plain v => .scalar true v
  | quoted _ v => .scalar false v

/-- Whether a value is read as it stands. -/
def Readable : Written → Prop
  | plain v => IsPlain v.toList
  | quoted escaped v => ∀ c ∈ v.toList, EscapeOf c (escaped c)

end Written

/-- A line of an outline: a key with a value, or above a deeper mapping. -/
structure Line where
  column : Nat
  key : String
  value? : Option Written

namespace Line

/-- What stands behind the colon. -/
def content (l : Line) : List Char :=
  match l.value? with
  | none => []
  | some w => ' ' :: w.text

/-- The text of a line without its indentation. -/
def text (l : Line) : List Char := l.key.toList ++ ':' :: (l.content ++ ['\n'])

/-- The blocks that are open behind the key of a line. -/
def enter (l : Line) (blocks : List Nat) : List Nat :=
  if (keptBlocks l.column blocks).head? = some l.column then keptBlocks l.column blocks
  else l.column :: keptBlocks l.column blocks

/-- The mark of the block that a line starts, if it does. -/
def startMark (l : Line) (blocks : List Nat) : List Token :=
  if (keptBlocks l.column blocks).head? = some l.column then [] else [.blockMappingStart]

def tokens (l : Line) (blocks : List Nat) : List Token :=
  endMarks l.column blocks ++ (l.startMark blocks ++
    .key :: .scalar true l.key :: .value :: (l.value?.map Written.token).toList)

end Line

/-- The lines of a text, each with its indentation. -/
def outlineText : List Line → List Char
  | [] => []
  | l :: rest => List.replicate l.column ' ' ++ (l.text ++ outlineText rest)

/-- The lines without the indentation of the first. -/
def flushText : List Line → List Char
  | [] => []
  | l :: rest => l.text ++ outlineText rest

def firstColumn : List Line → Nat
  | [] => 0
  | l :: _ => l.column

/-- The tokens of lines within blocks, up to the end of the text. -/
def outlineTokens (blocks : List Nat) : List Line → List Token
  | [] => List.replicate blocks.length .blockEnd
  | l :: rest => l.tokens blocks ++ outlineTokens (l.enter blocks) rest

/-- Every key is recognised, every value is read as it stands, and none goes on in the next
line. -/
def Readable : List Line → Prop
  | [] => True
  | l :: rest =>
    IsKey l.key ∧ (∀ w ∈ l.value?, w.Readable ∧ firstColumn rest ≤ l.column) ∧ Readable rest

variable {l : Line} {ls : List Line}

theorem outlineText_eq (ls : List Line) :
    outlineText ls = List.replicate (firstColumn ls) ' ' ++ flushText ls := by
  cases ls <;> rfl

theorem Written.Readable.staysOnLine {w : Written} (h : w.Readable) : StaysOnLine w.text := by
  cases w with
  | plain v => exact IsPlain.staysOnLine h
  | quoted escaped v =>
      have hquote : StaysOnLine ['"'] := by simp [StaysOnLine, isBreak]
      have hv : StaysOnLine (v.toList.flatMap escaped) := by
        intro c hc
        obtain ⟨d, hd, hc⟩ := List.mem_flatMap.mp hc
        exact (h d hd).staysOnLine c hc
      exact hquote.append (hv.append hquote)

theorem staysOnLine_content (h : ∀ w ∈ l.value?, w.Readable) : StaysOnLine l.content := by
  unfold Line.content
  cases hvalue : l.value? with
  | none => simp [StaysOnLine]
  | some w =>
      have hblank : StaysOnLine [' '] := by simp [StaysOnLine, isBreak]
      exact hblank.append (h w hvalue).staysOnLine

/-! ### One line -/

theorem flushText_starts (h : Readable ls) :
    startsInk (flushText ls) = true ∧ (flushText ls).head? ≠ some '#' := by
  cases ls with
  | nil => exact ⟨rfl, by simp [flushText]⟩
  | cons l ls =>
      obtain ⟨c, cs, hc⟩ := List.exists_cons_of_ne_nil h.1.1.nonempty
      obtain ⟨hblank, hbreak, hhash⟩ :=
        not_gap_of_opens (h.1.1.opens c (by simp [hc])) (h.1.1.inner c (by simp [hc]))
      simp [flushText, Line.text, hc, startsInk, hblank, hbreak, hhash]

/-- The indentation of a line is passed over. -/
theorem takes_indentation (k : Nat) (cs : List Char) (pos : Pos) (tokens : List Token)
    (indent : Int) (indents : List Int) (q : Nat) :
    Takes 0 (atLine (List.replicate k ' ' ++ cs) pos tokens indent indents q)
      (atLine cs (pos.after (List.replicate k ' ')) tokens indent indents q) := by
  induction k generalizing pos with
  | zero => exact fun _ => rfl
  | succ k ih =>
      have hblank : Takes 0
          (atLine (' ' :: (List.replicate k ' ' ++ cs)) pos tokens indent indents q)
          (atLine (List.replicate k ' ' ++ cs) (pos.next ' ') tokens indent indents q) :=
        takes_zero_of_skipGap rfl
      rw [List.replicate_succ, List.cons_append, Pos.after_cons]
      exact hblank.trans (ih (pos.next ' '))

/-- The end of a line is passed over, together with the indentation of the next. -/
theorem takes_lineEnd (k : Nat) (cs : List Char) (pos : Pos) (tokens : List Token)
    (indent : Int) (indents : List Int) (q : Nat) :
    Takes 0 (midLine ('\n' :: (List.replicate k ' ' ++ cs)) pos tokens indent indents q)
      (atLine cs (pos.after ('\n' :: List.replicate k ' ')) tokens indent indents q) := by
  have hbreak : Takes 0
      (midLine ('\n' :: (List.replicate k ' ' ++ cs)) pos tokens indent indents q)
      (atLine (List.replicate k ' ' ++ cs) (pos.next '\n') tokens indent indents q) :=
    takes_zero_of_skipGap rfl
  exact hbreak.trans (takes_indentation k cs _ tokens indent indents q)

theorem Pos.column_after_lineEnd (p : Pos) (cs : List Char) (k : Nat) :
    (p.after (cs ++ '\n' :: List.replicate k ' ')).column = k := by
  rw [Pos.after_append, Pos.after_cons, Pos.column_after_blanks]
  exact Nat.zero_add k

/-- A value is scanned up to the text of the next line. -/
theorem takes_written {w : Written} (hw : w.Readable) {cs : List Char} (hcs : startsInk cs = true)
    {k : Nat} {pos : Pos} (tokens : List Token) {indent : Int} (hk : k ≤ indent)
    (hindent : indent < pos.column) (indents : List Int) (q : Nat) :
    ∃ q', Takes 1
      (midLine (w.text ++ '\n' :: (List.replicate k ' ' ++ cs)) pos tokens indent indents q)
      (atLine cs (pos.after (w.text ++ '\n' :: List.replicate k ' ')) (w.token :: tokens) indent
        indents q') := by
  cases w with
  | plain v => exact ⟨q, takes_plain hw hcs tokens hk hindent indents q⟩
  | quoted escaped v =>
      obtain ⟨q', hvalue⟩ := takes_quoted hw (List.replicate k ' ' ++ cs) tokens hindent indents q
      have hend := takes_indentation k cs (pos.after (quotedText escaped v ++ ['\n']))
        (.scalar false v :: tokens) indent indents q'
      refine ⟨q', ?_⟩
      have hall := hvalue.trans hend
      simpa [Written.text, Written.token, Pos.after_append] using hall

/-- Behind its colon, a line is scanned up to the text of the next. -/
theorem takes_content {cs : List Char} (hcs : startsInk cs = true) {k : Nat}
    (h : ∀ w ∈ l.value?, w.Readable ∧ k ≤ l.column) {pos : Pos} (hpos : l.column < pos.column)
    (tokens : List Token) (indents : List Int) (q : Nat) :
    ∃ n q', n ≤ l.content.length ∧
      Takes n (midLine (l.content ++ '\n' :: (List.replicate k ' ' ++ cs)) pos tokens l.column
          indents q)
        (atLine cs (pos.after (l.content ++ '\n' :: List.replicate k ' '))
          ((l.value?.map Written.token).toList.reverse ++ tokens) l.column indents q') := by
  unfold Line.content
  cases hvalue : l.value? with
  | none => exact ⟨0, q, Nat.zero_le _, takes_lineEnd k cs pos tokens l.column indents q⟩
  | some w =>
      obtain ⟨hw, hk⟩ := h w hvalue
      have hcolumn : (l.column : Int) < (pos.next ' ').column := by
        rw [Pos.column_next (by decide)]
        omega
      have hblank := takes_blank (w.text ++ '\n' :: (List.replicate k ' ' ++ cs)) pos tokens
        l.column
        indents q
      obtain ⟨q', hwritten⟩ := takes_written hw hcs tokens (Int.ofNat_le.2 hk) hcolumn indents q
      exact ⟨1, q', by simp, hblank.trans hwritten⟩

theorem indentOf_enter (l : Line) (blocks : List Nat) : indentOf (l.enter blocks) = l.column := by
  unfold Line.enter
  split
  · next hopen => exact indentOf_eq_iff.mpr hopen
  · rfl

theorem outerOf_enter (l : Line) (blocks : List Nat) :
    outerOf (l.enter blocks) = openIndents (indentOf (keptBlocks l.column blocks)) l.column
      (outerOf (keptBlocks l.column blocks)) := by
  unfold Line.enter openIndents
  by_cases hopen : (keptBlocks l.column blocks).head? = some l.column
  · rw [if_pos hopen, if_pos (indentOf_eq_iff.mpr hopen)]
  · rw [if_neg hopen, if_neg (mt indentOf_eq_iff.mp hopen)]
    rfl

theorem reverse_startMark (l : Line) (blocks : List Nat) (tokens : List Token) :
    (l.startMark blocks).reverse ++ tokens =
      openTokens (indentOf (keptBlocks l.column blocks)) l.column tokens := by
  unfold Line.startMark openTokens
  by_cases hopen : (keptBlocks l.column blocks).head? = some l.column
  · rw [if_pos hopen, if_pos (indentOf_eq_iff.mpr hopen)]
    rfl
  · rw [if_neg hopen, if_neg (mt indentOf_eq_iff.mp hopen)]
    rfl

theorem reverse_tokens (l : Line) (blocks : List Nat) (tokens : List Token) :
    (l.tokens blocks).reverse ++ tokens =
      (l.value?.map Written.token).toList.reverse ++ .value :: .scalar true l.key :: .key ::
        openTokens (indentOf (keptBlocks l.column blocks)) l.column
          (endMarks l.column blocks ++ tokens) := by
  rw [← reverse_startMark]
  simp [Line.tokens, endMarks]

/-- A line takes two rounds and those of its content. -/
theorem takes_line (h : Readable (l :: ls)) {pos : Pos} (hpos : pos.column = l.column)
    (tokens : List Token) (blocks : List Nat) (q : Nat) :
    ∃ n q' pos', n ≤ l.text.length ∧ pos'.column = firstColumn ls ∧
      Takes n (withinBlocks (flushText (l :: ls)) pos tokens blocks q)
        (withinBlocks (flushText ls) pos' ((l.tokens blocks).reverse ++ tokens) (l.enter blocks)
          q') := by
  obtain ⟨hstarts, hhash⟩ := flushText_starts h
  obtain ⟨hkey, hvalue, hrest⟩ := h
  have hgap : atGap (l.content ++ '\n' :: outlineText ls) = true := by
    unfold Line.content
    cases l.value? <;> rfl
  have htext : flushText (l :: ls) =
      l.key.toList ++ ':' :: (l.content ++ '\n' :: outlineText ls) := by
    simp [flushText, Line.text]
  have hunroll := takes_unroll hstarts hhash pos tokens blocks q
  have hindent : indentOf (keptBlocks pos.column blocks) ≤ pos.column :=
    indentOf_keptBlocks_le (by omega) blocks
  obtain ⟨hline, hcol⟩ := Pos.line_column_after hkey.1.staysOnLine.lineFeed_notMem pos
  have hindex := Pos.index_after pos l.key.toList
  have hlength := hkey.2
  have hname := takes_key hkey.1 hgap (endMarks pos.column blocks ++ tokens) hindent
    (outerOf (keptBlocks pos.column blocks)) q
  have hcolon := takes_colon hgap (endMarks pos.column blocks ++ tokens) l.key hindent hline.symm
    (by omega) (by omega) (outerOf (keptBlocks pos.column blocks)) q
  have hbehind : l.column < ((pos.after l.key.toList).next ':').column := by
    rw [Pos.column_next (by decide)]
    omega
  obtain ⟨n, q', hn, hcontent⟩ := takes_content (flushText_starts hrest).1 hvalue hbehind
    (.value :: .scalar true l.key :: .key :: openTokens (indentOf (keptBlocks pos.column blocks))
      pos.column (endMarks pos.column blocks ++ tokens))
    (openIndents (indentOf (keptBlocks pos.column blocks)) pos.column
      (outerOf (keptBlocks pos.column blocks))) q
  rw [← outlineText_eq, ← hpos] at hcontent
  refine ⟨n + 2, q', ((pos.after l.key.toList).next ':').after
    (l.content ++ '\n' :: List.replicate (firstColumn ls) ' '), ?_, ?_, ?_⟩
  · have hpositive := List.length_pos_iff.mpr hkey.1.nonempty
    simp only [Line.text, List.length_append, List.length_cons, List.length_nil]
    omega
  · exact Pos.column_after_lineEnd _ _ _
  · rw [htext] at hunroll ⊢
    rw [withinBlocks, withinBlocks, indentOf_enter, outerOf_enter, reverse_tokens, ← hpos]
    exact hunroll.trans ((hname.trans hcolon).trans hcontent)

/-! ### The whole text -/

/-- From line to line up to the end, where the blocks that are still open end. -/
theorem takes_outline (h : Readable ls) {pos : Pos} (hpos : pos.column = firstColumn ls)
    (tokens : List Token) (blocks : List Nat) (q : Nat) :
    ∃ n q' pos' tokens' blocks', n ≤ (flushText ls).length ∧
      tokens'.reverse ++ List.replicate blocks'.length .blockEnd =
        tokens.reverse ++ outlineTokens blocks ls ∧
      Takes n (withinBlocks (flushText ls) pos tokens blocks q)
        (withinBlocks [] pos' tokens' blocks' q') := by
  induction ls generalizing pos tokens blocks q with
  | nil => exact ⟨0, q, pos, tokens, blocks, Nat.le_refl 0, rfl, fun _ => rfl⟩
  | cons l ls ih =>
      obtain ⟨n, q₁, pos₁, hn, hcol, hfirst⟩ := takes_line h hpos tokens blocks q
      obtain ⟨m, q', pos', tokens', blocks', hm, htokens, hrest⟩ :=
        ih h.2.2 hcol ((l.tokens blocks).reverse ++ tokens) (l.enter blocks) q₁
      refine ⟨m + n, q', pos', tokens', blocks', ?_, ?_, hfirst.trans hrest⟩
      · have hlength : (flushText ls).length ≤ (outlineText ls).length := by
          simp [outlineText_eq]
        rw [flushText, List.length_append]
        omega
      · simpa [outlineTokens] using htokens

theorem joinBreaks_of_notMem {cs : List Char} (h : '\r' ∉ cs) : joinBreaks cs = cs := by
  fun_induction joinBreaks cs with
  | case1 => rfl
  | case2 rest ih => simp at h
  | case3 c rest _ ih => rw [ih fun hr => h (by simp [hr])]

/-- A text without carriage returns and null characters is read as it stands. -/
theorem characters_ofList {cs : List Char} (h : ∀ c ∈ cs, c ≠ '\r' ∧ c ≠ '\x00') :
    characters (String.ofList cs) = cs := by
  have hnull : ∀ c ∈ cs, (c != '\x00') = true := fun c hc => by simpa using (h c hc).2
  rw [characters, String.toList_ofList, List.takeWhile_eq_self_iff.mpr hnull]
  exact joinBreaks_of_notMem fun hm => (h _ hm).1 rfl

theorem StaysOnLine.readAsIs {cs : List Char} (h : StaysOnLine cs) :
    ∀ c ∈ cs, c ≠ '\r' ∧ c ≠ '\x00' := by
  intro c hc
  refine ⟨?_, (h c hc).2⟩
  rintro rfl
  exact absurd (h _ hc).1 (by decide)

theorem Readable.readAsIs (h : Readable ls) : ∀ c ∈ outlineText ls, c ≠ '\r' ∧ c ≠ '\x00' := by
  induction ls with
  | nil => simp [outlineText]
  | cons l ls ih =>
      obtain ⟨hkey, hvalue, hrest⟩ := h
      intro c hc
      simp only [outlineText, Line.text, List.mem_append, List.mem_cons, List.not_mem_nil,
        or_false] at hc
      rcases hc with hc | (hc | rfl | hc | rfl) | hc
      · rw [List.eq_of_mem_replicate hc]
        decide
      · exact hkey.1.staysOnLine.readAsIs c hc
      · decide
      · exact (staysOnLine_content fun w hw => (hvalue w hw).1).readAsIs c hc
      · decide
      · exact ih hrest c hc

/-- The scanner takes the tokens of an outline off its text, whatever came before. -/
theorem run_outline (h : Readable ls) (pos : Pos) (hpos : pos.column = 0) (tokens : List Token)
    (q fuel : Nat) :
    (withinBlocks (outlineText ls) pos tokens [] q).run (fuel + (outlineText ls).length + 1) =
      .ok (tokens.reverse ++ outlineTokens [] ls) := by
  have hindent : Takes 0 (withinBlocks (outlineText ls) pos tokens [] q)
      (withinBlocks (flushText ls) (pos.after (List.replicate (firstColumn ls) ' ')) tokens []
        q) := by
    rw [outlineText_eq]
    exact takes_indentation (firstColumn ls) (flushText ls) pos tokens (-1) [] q
  have hcol : (pos.after (List.replicate (firstColumn ls) ' ')).column = firstColumn ls := by
    rw [Pos.column_after_blanks, hpos, Nat.zero_add]
  obtain ⟨n, q', pos', tokens', blocks', hn, htokens, hlines⟩ := takes_outline h hcol tokens [] q
  have hall : Takes n (withinBlocks (outlineText ls) pos tokens [] q)
      (withinBlocks [] pos' tokens' blocks' q') := hindent.trans hlines
  obtain ⟨more, hmore⟩ : ∃ more, fuel + (outlineText ls).length + 1 = more + 1 + n := by
    refine ⟨fuel + (outlineText ls).length - n, ?_⟩
    rw [outlineText_eq, List.length_append]
    omega
  rw [hmore, hall, run_of_end, htokens]

/-! ### Blocks among the tokens -/

/-- A block ends before a line that is not in it. -/
theorem outlineTokens_pop {k : Nat} (h : firstColumn ls < k) (blocks : List Nat) :
    outlineTokens (k :: blocks) ls = .blockEnd :: outlineTokens blocks ls := by
  cases ls with
  | nil => rfl
  | cons l ls =>
      have hk : (l.column : Int) < k := Int.ofNat_lt.2 h
      have hkept : keptBlocks l.column (k :: blocks) = keptBlocks l.column blocks := by
        simp [keptBlocks, deeper, hk]
      have hmarks : endMarks l.column (k :: blocks) = .blockEnd :: endMarks l.column blocks := by
        simp [endMarks, deeper, hk, List.replicate_succ]
      simp only [outlineTokens, Line.tokens, Line.startMark, Line.enter, hkept, hmarks,
        List.cons_append]

/-- A line that is deeper than the innermost block starts another. -/
theorem outlineTokens_push {blocks : List Nat} (h : indentOf blocks < l.column) (ls : List Line) :
    outlineTokens blocks (l :: ls) =
      .blockMappingStart :: outlineTokens (l.column :: blocks) (l :: ls) := by
  cases blocks with
  | nil =>
      simp [outlineTokens, Line.tokens, Line.startMark, Line.enter, endMarks, keptBlocks, deeper]
  | cons k blocks =>
      have hk : k < l.column := Int.ofNat_lt.1 h
      have hdeep : ¬((l.column : Int) < k) := by omega
      simp [outlineTokens, Line.tokens, Line.startMark, Line.enter, endMarks, keptBlocks, deeper,
        hdeep, Nat.ne_of_lt hk]

/-- Within its block, a line adds its key and its value. -/
theorem outlineTokens_line (l : Line) (ls : List Line) (blocks : List Nat) :
    outlineTokens (l.column :: blocks) (l :: ls) =
      .key :: .scalar true l.key :: .value ::
        ((l.value?.map Written.token).toList ++ outlineTokens (l.column :: blocks) ls) := by
  simp [outlineTokens, Line.tokens, Line.startMark, Line.enter, endMarks, keptBlocks, deeper]

end ScalingTrials.Yaml
