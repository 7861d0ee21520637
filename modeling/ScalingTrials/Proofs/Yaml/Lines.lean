import Mathlib.Data.List.TakeWhile
import ScalingTrials.Proofs.Yaml.Scalars
import ScalingTrials.Yaml.Tokens

/-! # Scanning keys and values

The scanner takes a key, its colon and its value in a round each, whatever the text
holds behind. Blocks end at the first line that is not indented as deep. -/

namespace ScalingTrials.Yaml.Scanner

/-- After `n` rounds in one state the scanner is where it would be in another. -/
def Takes (n : Nat) (s t : Scanner) : Prop := ∀ fuel, s.run (fuel + n) = t.run fuel

theorem Takes.trans {m n : Nat} {s t u : Scanner} (h : Takes m s t) (h' : Takes n t u) :
    Takes (n + m) s u := by
  intro fuel
  rw [← Nat.add_assoc, h, h']

/-- What the scanner passes over does not count as a round. -/
theorem takes_zero_of_skipGap {s t : Scanner}
    (h : s.skipGap s.cursor.rest.length = t.skipGap t.cursor.rest.length) : Takes 0 s t := by
  intro fuel
  cases fuel with
  | zero => rfl
  | succ fuel => simp only [run, h]

/-- A round hands the next character to `dispatch` if no gap precedes it, no key
goes stale and no block ends. -/
theorem takes_one {s t : Scanner} {c : Char} {rest : List Char}
    (hrest : s.cursor.rest = c :: rest) (hgap : s.skipGap s.cursor.rest.length = s)
    (hstale : s.dropStale = .ok s) (hunroll : s.unroll s.cursor.pos.column = s)
    (hstep : s.dispatch c rest = .ok t) : Takes 1 s t := by
  intro fuel
  rw [run, hgap, hstale]
  simp only [bind, Except.bind, hunroll, hrest, hstep]

/-! ### What a round does first -/

theorem skipGap_of_ink {s : Scanner} {c : Char} {rest : List Char}
    (hrest : s.cursor.rest = c :: rest) (hblank : isBlank c = false) (hbreak : isBreak c = false)
    (hhash : c ≠ '#') (fuel : Nat) : s.skipGap fuel = s := by
  cases fuel with
  | zero => rfl
  | succ fuel =>
      simp only [isBlank, Bool.or_eq_false_iff, beq_eq_false_iff_ne] at hblank
      simp [skipGap, Cursor.peek?, hrest, hblank, hbreak, hhash]

theorem skipGap_of_end {s : Scanner} (hrest : s.cursor.rest = []) (fuel : Nat) :
    s.skipGap fuel = s := by
  cases fuel with
  | zero => rfl
  | succ fuel => simp [skipGap, Cursor.peek?, hrest]

theorem dropStale_of_none {s : Scanner} (hkeys : s.keys = [none]) : s.dropStale = .ok s := by
  cases s
  simp_all [dropStale]

theorem dropStale_of_some {s : Scanner} {k : KeyStart} (hkeys : s.keys = [some k])
    (hk : s.isStale k = false) : s.dropStale = .ok s := by
  cases s
  simp_all [dropStale]

/-- No block ends at a column that is not left of the innermost one. -/
theorem unroll_of_le {s : Scanner} {column : Int} (h : s.indent ≤ column) :
    s.unroll column = s := by
  unfold unroll
  split
  · rfl
  · cases s with
    | mk cursor tokens count indent indents =>
        cases indents with
        | nil => simp [closing]
        | cons outer rest => simp [closing, Int.not_lt.2 h]

/-! ### Open blocks -/

/-- The indentation of the innermost block, given the columns of all, the innermost first. -/
def indentOf : List Nat → Int
  | [] => -1
  | k :: _ => k

/-- The indentations around the innermost block. -/
def outerOf : List Nat → List Int
  | [] => []
  | _ :: blocks => indentOf blocks :: outerOf blocks

theorem indentOf_cons (k : Nat) (blocks : List Nat) : indentOf (k :: blocks) = k := rfl

theorem outerOf_cons (k : Nat) (blocks : List Nat) :
    outerOf (k :: blocks) = indentOf blocks :: outerOf blocks := rfl

/-- Whether a block does not go on at a column. -/
def deeper (column : Int) (k : Nat) : Bool := decide (column < (k : Int))

/-- The blocks that go on at a column. -/
def keptBlocks (column : Int) (blocks : List Nat) : List Nat := blocks.dropWhile (deeper column)

/-- The marks of the blocks that end at a column. -/
def endMarks (column : Int) (blocks : List Nat) : List Token :=
  List.replicate (blocks.takeWhile (deeper column)).length .blockEnd

theorem closing_blocks (column : Int) (blocks : List Nat) :
    closing column (indentOf blocks) (outerOf blocks) =
      ((blocks.takeWhile (deeper column)).length, indentOf (keptBlocks column blocks),
        outerOf (keptBlocks column blocks)) := by
  induction blocks with
  | nil => rfl
  | cons k blocks ih =>
      by_cases hk : column < (k : Int)
      · simp only [indentOf_cons, outerOf_cons, closing, if_pos hk, ih]
        simp [keptBlocks, deeper, hk]
      · simp only [indentOf_cons, outerOf_cons, closing, if_neg hk]
        simp [keptBlocks, deeper, hk, indentOf_cons, outerOf_cons]

theorem indentOf_keptBlocks_le {column : Int} (hcolumn : -1 ≤ column) (blocks : List Nat) :
    indentOf (keptBlocks column blocks) ≤ column := by
  induction blocks with
  | nil => exact hcolumn
  | cons k blocks ih =>
      by_cases hk : column < (k : Int)
      · simpa [keptBlocks, deeper, hk] using ih
      · simpa [keptBlocks, deeper, hk, indentOf] using Int.not_lt.1 hk

theorem indentOf_eq_iff {column : Nat} {blocks : List Nat} :
    indentOf blocks = column ↔ blocks.head? = some column := by
  cases blocks with
  | nil => simp [indentOf]
  | cons k blocks => rw [indentOf_cons, Int.natCast_inj, List.head?_cons, Option.some.injEq]

/-- The marks of the blocks that end in two steps. -/
theorem endMarks_append_keptBlocks {outer column : Int} (h : outer ≤ column) (blocks : List Nat) :
    endMarks column blocks ++ endMarks outer (keptBlocks column blocks) =
      endMarks outer blocks := by
  induction blocks with
  | nil => rfl
  | cons k blocks ih =>
      by_cases hk : column < (k : Int)
      · have hk' : outer < (k : Int) := by omega
        simp only [endMarks, keptBlocks, List.takeWhile_cons, List.dropWhile_cons, deeper, hk, hk',
          decide_true, if_true, List.length_cons, List.replicate_succ, List.cons_append] at ih ⊢
        rw [ih]
      · simp [endMarks, keptBlocks, deeper, hk]

/-- Nothing is left of an indentation of minus one. -/
theorem endMarks_neg_one (blocks : List Nat) :
    endMarks (-1) blocks = List.replicate blocks.length .blockEnd := by
  have hall : blocks.takeWhile (deeper (-1)) = blocks := by
    rw [List.takeWhile_eq_self_iff]
    intro k _
    simp only [deeper, decide_eq_true_eq]
    omega
  rw [endMarks, hall]

/-! ### Keys and values on one line -/

/-- At the start of a line of block context. -/
def atLine (cs : List Char) (pos : Pos) (tokens : List Token) (indent : Int) (indents : List Int)
    (afterQuoted : Nat) : Scanner :=
  ⟨⟨cs, pos⟩, tokens, tokens.length, indent, indents, 0, [none], true, afterQuoted⟩

/-- At the start of a line, within blocks of some columns. -/
def withinBlocks (cs : List Char) (pos : Pos) (tokens : List Token) (blocks : List Nat)
    (afterQuoted : Nat) : Scanner :=
  atLine cs pos tokens (indentOf blocks) (outerOf blocks) afterQuoted

theorem unroll_withinBlocks (cs : List Char) (pos : Pos) (tokens : List Token) (blocks : List Nat)
    (q : Nat) (column : Int) :
    (withinBlocks cs pos tokens blocks q).unroll column =
      withinBlocks cs pos (endMarks column blocks ++ tokens) (keptBlocks column blocks) q := by
  simp only [unroll, withinBlocks, atLine, inFlow, closing_blocks]
  simp [endMarks, Nat.add_comm]

theorem skipGap_withinBlocks {cs : List Char} (hcs : startsInk cs = true)
    (hhash : cs.head? ≠ some '#') (pos : Pos) (tokens : List Token) (blocks : List Nat)
    (q fuel : Nat) :
    (withinBlocks cs pos tokens blocks q).skipGap fuel = withinBlocks cs pos tokens blocks q := by
  cases cs with
  | nil => exact skipGap_of_end rfl fuel
  | cons c cs =>
      simp only [startsInk, Bool.and_eq_true, Bool.not_eq_true'] at hcs
      exact skipGap_of_ink rfl hcs.1 hcs.2 (by simpa using hhash) fuel

theorem keptBlocks_keptBlocks (column : Int) (blocks : List Nat) :
    keptBlocks column (keptBlocks column blocks) = keptBlocks column blocks := by
  induction blocks with
  | nil => rfl
  | cons k blocks ih => by_cases hk : column < (k : Int) <;> simp_all [keptBlocks, deeper]

/-- The blocks that do not go on at the column of a line end there. -/
theorem takes_unroll {cs : List Char} (hcs : startsInk cs = true) (hhash : cs.head? ≠ some '#')
    (pos : Pos) (tokens : List Token) (blocks : List Nat) (q : Nat) :
    Takes 0 (withinBlocks cs pos tokens blocks q)
      (withinBlocks cs pos (endMarks pos.column blocks ++ tokens)
        (keptBlocks pos.column blocks) q) := by
  intro fuel
  cases fuel with
  | zero => rfl
  | succ fuel =>
      have hunroll : ∀ tokens blocks, (withinBlocks cs pos tokens blocks q).unroll
          (withinBlocks cs pos tokens blocks q).cursor.pos.column = _ :=
        fun tokens blocks => unroll_withinBlocks cs pos tokens blocks q pos.column
      have hstale : ∀ tokens blocks, (withinBlocks cs pos tokens blocks q).dropStale = .ok _ :=
        fun tokens blocks => dropStale_of_none rfl
      have hnone : endMarks pos.column (keptBlocks pos.column blocks) = [] := by
        have happend := endMarks_append_keptBlocks (Int.le_refl pos.column) blocks
        simpa using happend
      rw [run, run, skipGap_withinBlocks hcs hhash, skipGap_withinBlocks hcs hhash, hstale, hstale]
      simp only [bind, Except.bind, hunroll, hnone, keptBlocks_keptBlocks, List.nil_append]

theorem finish_withinBlocks (cs : List Char) (pos : Pos) (tokens : List Token) (blocks : List Nat)
    (q : Nat) : (withinBlocks cs pos tokens blocks q).finish =
      .ok (tokens.reverse ++ List.replicate blocks.length .blockEnd) := by
  have hkey : ∀ tokens blocks, (withinBlocks cs pos tokens blocks q).dropKey =
      .ok (withinBlocks cs pos tokens blocks q) := fun tokens blocks => rfl
  simp only [finish, unroll_withinBlocks, hkey, endMarks_neg_one, bind, Except.bind]
  simp [withinBlocks, atLine]

/-- At the end of the text every block ends. -/
theorem run_of_end (pos : Pos) (tokens : List Token) (blocks : List Nat) (q fuel : Nat) :
    (withinBlocks [] pos tokens blocks q).run (fuel + 1) =
      .ok (tokens.reverse ++ List.replicate blocks.length .blockEnd) := by
  have hmarks := endMarks_append_keptBlocks (show (-1 : Int) ≤ pos.column by omega) blocks
  have hstale : (withinBlocks [] pos tokens blocks q).dropStale = .ok _ := dropStale_of_none rfl
  have hunroll : (withinBlocks [] pos tokens blocks q).unroll
      (withinBlocks [] pos tokens blocks q).cursor.pos.column = _ :=
    unroll_withinBlocks [] pos tokens blocks q pos.column
  have hfinish := finish_withinBlocks [] pos (endMarks pos.column blocks ++ tokens)
    (keptBlocks pos.column blocks) q
  rw [endMarks_neg_one, endMarks_neg_one] at hmarks
  rw [run, skipGap_withinBlocks rfl (by simp), hstale]
  simp only [bind, Except.bind, hunroll]
  rw [show (withinBlocks [] pos (endMarks pos.column blocks ++ tokens)
    (keptBlocks pos.column blocks) q).cursor.rest = [] from rfl]
  simp only [hfinish]
  rw [List.reverse_append, List.append_assoc, ← hmarks]
  simp [endMarks]

/-- Behind a key, at its colon. -/
def behindKey (cs : List Char) (start pos : Pos) (tokens : List Token) (key : String)
    (indent : Int) (indents : List Int) (afterQuoted : Nat) : Scanner :=
  ⟨⟨cs, pos⟩, .scalar true key :: tokens, tokens.length + 1, indent, indents, 0,
    [some ⟨tokens.length, start, false⟩], false, afterQuoted⟩

/-- Behind a quoted value, before the line feed. -/
def behindQuoted (cs : List Char) (pos : Pos) (tokens : List Token) (indent : Int)
    (indents : List Int) : Scanner :=
  ⟨⟨cs, pos⟩, tokens, tokens.length, indent, indents, 0, [none], false, pos.index⟩

/-- Within a line, where no key may start. -/
def midLine (cs : List Char) (pos : Pos) (tokens : List Token) (indent : Int)
    (indents : List Int) (afterQuoted : Nat) : Scanner :=
  ⟨⟨cs, pos⟩, tokens, tokens.length, indent, indents, 0, [none], false, afterQuoted⟩

theorem isMarker_of_ne {m c : Char} (h : c ≠ m) (rest : List Char) :
    isMarker m (c :: rest) = false := by
  rcases rest with _ | ⟨d, _ | ⟨e, rest⟩⟩ <;> simp [isMarker, h]

/-- The tokens once a block is open at a column. -/
def openTokens (indent : Int) (column : Nat) (tokens : List Token) : List Token :=
  if indent = column then tokens else .blockMappingStart :: tokens

/-- The indentations around a block that is open at a column. -/
def openIndents (indent : Int) (column : Nat) (indents : List Int) : List Int :=
  if indent = column then indents else indent :: indents

theorem dispatch_plain {c : Char} (hopens : opensOther c = false) (hbreaks : breaksPlain c = false)
    (s : Scanner) (rest : List Char) : s.dispatch c rest = s.plain := by
  simp only [opensOther, breaksPlain, Bool.or_eq_false_iff, beq_eq_false_iff_ne] at hopens hbreaks
  have hstart : isMarker '-' (c :: rest) = false := isMarker_of_ne (by simp_all) rest
  have hend : isMarker '.' (c :: rest) = false := isMarker_of_ne (by simp_all) rest
  unfold dispatch
  simp_all

/-- Text that opens like a plain scalar is no gap. -/
theorem not_gap_of_opens {c : Char} (hopens : opensOther c = false)
    (hbreaks : breaksPlain c = false) : isBlank c = false ∧ isBreak c = false ∧ c ≠ '#' := by
  refine ⟨?_, not_isBreak_of_breaksPlain_eq_false hbreaks, ?_⟩
  · rw [isBlank_eq_of_breaksPlain_eq_false hbreaks]
    simp only [opensOther, Bool.or_eq_false_iff] at hopens
    exact hopens.2
  · rintro rfl
    simp [breaksPlain] at hbreaks

/-- A key is scanned up to its colon, where it waits to be recognised. -/
theorem takes_key {key : String} (hkey : IsPlain key.toList) {cs : List Char}
    (hgap : atGap cs = true) {pos : Pos} (tokens : List Token) {indent : Int}
    (hindent : indent ≤ pos.column) (indents : List Int) (q : Nat) :
    Takes 1 (atLine (key.toList ++ ':' :: cs) pos tokens indent indents q)
      (behindKey (':' :: cs) pos (pos.after key.toList) tokens key indent indents q) := by
  obtain ⟨c, rest, hc⟩ := List.exists_cons_of_ne_nil hkey.nonempty
  have hopens : opensOther c = false := hkey.opens c (by simp [hc])
  have hbreaks : breaksPlain c = false := hkey.inner c (by simp [hc])
  obtain ⟨hblank, hbreak, hhash⟩ := not_gap_of_opens hopens hbreaks
  have hrest : (atLine (key.toList ++ ':' :: cs) pos tokens indent indents q).cursor.rest =
      c :: (rest ++ ':' :: cs) := by
    simp [atLine, hc]
  refine takes_one hrest (skipGap_of_ink hrest hblank hbreak hhash _)
    (dropStale_of_none rfl) (unroll_of_le hindent) ?_
  have hscan := plainFrom_plain hkey (':' :: cs) (indent + 1).toNat pos (by omega) []
  rw [dispatch_plain hopens hbreaks]
  simp only [plain, saveKey, atLine, dropKey, bind, Except.bind, if_true, inFlow, scanned,
    contentIndent, Cursor.plain?]
  simp [hscan, plainFrom_colon _ _ hgap, behindKey, emit]

theorem dispatch_colon (s : Scanner) {rest : List Char} (hgap : atGap rest = true) :
    s.dispatch ':' rest = s.valueMark := by
  have hstart : isMarker '-' (':' :: rest) = false := isMarker_of_ne (by decide) _
  have hend : isMarker '.' (':' :: rest) = false := isMarker_of_ne (by decide) _
  unfold dispatch
  simp [hstart, hend, hgap]

theorem dispatch_doubleQuote (s : Scanner) (rest : List Char) :
    s.dispatch '"' rest = s.quoted s.cursor.double? := by
  have hstart : isMarker '-' ('"' :: rest) = false := isMarker_of_ne (by decide) _
  have hend : isMarker '.' ('"' :: rest) = false := isMarker_of_ne (by decide) _
  unfold dispatch
  simp [hstart, hend]

/-- The colon makes the key one of the block at its column, and starts that block if
it is deeper than those around it. -/
theorem takes_colon {cs : List Char} (hgap : atGap cs = true) {start pos : Pos}
    (tokens : List Token) (key : String)
    {indent : Int} (hindent : indent ≤ start.column) (hline : start.line = pos.line)
    (hindex : pos.index ≤ start.index + keyLength) (hcol : start.column ≤ pos.column)
    (indents : List Int) (q : Nat) :
    Takes 1 (behindKey (':' :: cs) start pos tokens key indent indents q)
      (midLine cs (pos.next ':')
        (.value :: .scalar true key :: .key :: openTokens indent start.column tokens)
        start.column (openIndents indent start.column indents) q) := by
  have hstale : (behindKey (':' :: cs) start pos tokens key indent indents q).isStale
      ⟨tokens.length, start, false⟩ = false := by
    simp [isStale, behindKey, hline, Nat.not_lt.2 hindex]
  have hunroll : indent ≤ (pos.column : Int) := by omega
  refine takes_one rfl (skipGap_of_ink rfl rfl rfl (by decide) _)
    (dropStale_of_some rfl hstale) (unroll_of_le hunroll) ?_
  rw [dispatch_colon _ hgap]
  by_cases hopen : indent = start.column
  · simp [valueMark, behindKey, midLine, openTokens, openIndents, insertAt, roll, inFlow, hopen,
      take, emit, allowKey, Cursor.nextN, Cursor.next]
  · have hdeep : ¬((start.column : Int) ≤ indent) := by omega
    have hnewer : tokens.length + 1 + 1 - tokens.length = 2 := by omega
    simp [valueMark, behindKey, midLine, openTokens, openIndents, insertAt, roll, inFlow, hdeep,
      hopen, hnewer, take, emit, allowKey, Cursor.nextN, Cursor.next]

/-- The blank behind a colon is passed over. -/
theorem takes_blank (cs : List Char) (pos : Pos) (tokens : List Token) (indent : Int)
    (indents : List Int) (q : Nat) :
    Takes 0 (midLine (' ' :: cs) pos tokens indent indents q)
      (midLine cs (pos.next ' ') tokens indent indents q) :=
  takes_zero_of_skipGap rfl

/-- A plain value is scanned up to the text of the next line, which is indented less. -/
theorem takes_plain {v : String} (hv : IsPlain v.toList) {rest : List Char}
    (hrest : startsInk rest = true) {k : Nat} {pos : Pos} (tokens : List Token) {indent : Int}
    (hk : k ≤ indent) (hindent : indent < pos.column) (indents : List Int) (q : Nat) :
    Takes 1
      (midLine (v.toList ++ '\n' :: (List.replicate k ' ' ++ rest)) pos tokens indent indents q)
      (atLine rest (pos.after (v.toList ++ '\n' :: List.replicate k ' '))
        (.scalar true v :: tokens) indent indents q) := by
  obtain ⟨c, cs, hc⟩ := List.exists_cons_of_ne_nil hv.nonempty
  have hopens : opensOther c = false := hv.opens c (by simp [hc])
  have hbreaks : breaksPlain c = false := hv.inner c (by simp [hc])
  obtain ⟨hblank, hbreak, hhash⟩ := not_gap_of_opens hopens hbreaks
  have hhead : (midLine (v.toList ++ '\n' :: (List.replicate k ' ' ++ rest)) pos tokens indent
      indents q).cursor.rest = c :: (cs ++ '\n' :: (List.replicate k ' ' ++ rest)) := by
    simp [midLine, hc]
  refine takes_one hhead (skipGap_of_ink hhead hblank hbreak hhash _)
    (dropStale_of_none rfl) (unroll_of_le (Int.le_of_lt hindent)) ?_
  have hscan := (plainFrom_plain hv ('\n' :: (List.replicate k ' ' ++ rest)) (indent + 1).toNat
    pos (by omega) []).trans (plainFrom_lineFeed (by omega) hrest (pos.after v.toList) _)
  rw [dispatch_plain hopens hbreaks]
  simp only [plain, saveKey, midLine, bind, Except.bind, inFlow, scanned, contentIndent,
    Cursor.plain?]
  simp [hscan, atLine, emit, Pos.after_append]

/-- A text between quotes, each character as an escape. -/
def quotedText (escaped : Char → List Char) (v : String) : List Char :=
  '"' :: (v.toList.flatMap escaped ++ ['"'])

/-- A quoted value is scanned up to the next line, however that is indented. -/
theorem takes_quoted {escaped : Char → List Char} {v : String}
    (hv : ∀ c ∈ v.toList, EscapeOf c (escaped c)) (rest : List Char) {pos : Pos}
    (tokens : List Token) {indent : Int} (hindent : indent < pos.column)
    (indents : List Int) (q : Nat) :
    ∃ q', Takes 1 (midLine (quotedText escaped v ++ '\n' :: rest) pos tokens indent indents q)
      (atLine rest (pos.after (quotedText escaped v ++ ['\n'])) (.scalar false v :: tokens) indent
        indents q') := by
  have hcol : 0 < (pos.next '"').column := by
    rw [Pos.column_next (by decide)]
    omega
  have hscan : doubleFrom (v.toList.flatMap escaped ++ '"' :: '\n' :: rest) (pos.next '"') .no
      .none [] = _ := doubleFrom_escaped hv ('\n' :: rest) hcol rfl []
  have hquoted : Takes 1 (midLine (quotedText escaped v ++ '\n' :: rest) pos tokens indent
      indents q) (behindQuoted ('\n' :: rest) (pos.after (quotedText escaped v))
        (.scalar false v :: tokens) indent indents) := by
    refine takes_one rfl (skipGap_of_ink rfl rfl rfl (by decide) _) (dropStale_of_none rfl)
      (unroll_of_le (Int.le_of_lt hindent)) ?_
    rw [dispatch_doubleQuote]
    simp only [quoted, saveKey, midLine, bind, Except.bind, scanned, Cursor.double?]
    simp [quotedText, Cursor.next, hscan, emit, Gap.text, behindQuoted]
  rw [Pos.after_append]
  exact ⟨_, hquoted.trans (takes_zero_of_skipGap rfl)⟩

/-- A key that a reader recognises: plain, and no longer than a key may be. -/
def IsKey (key : String) : Prop := IsPlain key.toList ∧ key.toList.length ≤ keyLength

end ScalingTrials.Yaml.Scanner
