import ScalingTrials.Proofs.Yaml.Outline
import ScalingTrials.Yaml.Node

/-! # A written mapping as a document

The text of a mapping, one entry to a line and nested by indentation, is scanned and
parsed back to the keys and values it was written from. -/

namespace ScalingTrials.Yaml

open Scanner

variable {ls : List Line}

def Written.node : Written → Node
  | plain v => .scalar none none true v
  | quoted _ v => .scalar none none false v

/-- The entries of a mapping, each a key with a value or with a mapping of its own. -/
inductive Mapping where
  | nil
  | value (key : String) (w : Written) (rest : Mapping)
  | mapping (key : String) (inner rest : Mapping)

namespace Mapping

/-- The lines of entries at a column; a mapping below a key is indented by two more. -/
def lines (k : Nat) : Mapping → List Line
  | nil => []
  | value key w rest => ⟨k, key, some w⟩ :: rest.lines k
  | mapping key inner rest => ⟨k, key, none⟩ :: (inner.lines (k + 2) ++ rest.lines k)

def tokens : Mapping → List Token
  | nil => []
  | value key w rest => .key :: .scalar true key :: .value :: w.token :: rest.tokens
  | mapping key inner rest =>
    .key :: .scalar true key :: .value :: .blockMappingStart ::
      (inner.tokens ++ .blockEnd :: rest.tokens)

/-- The nodes of the entries. -/
def nodes : Mapping → List (Node × Node)
  | nil => []
  | value key w rest => (.scalar none none true key, w.node) :: rest.nodes
  | mapping key inner rest => (.scalar none none true key, .map none inner.nodes) :: rest.nodes

/-- Every key is recognised, every value is read as it stands, and no mapping is empty. -/
def Readable : Mapping → Prop
  | nil => True
  | value key w rest => IsKey key ∧ w.Readable ∧ rest.Readable
  | mapping key inner rest => IsKey key ∧ inner ≠ nil ∧ inner.Readable ∧ rest.Readable

variable {m : Mapping}

/-! ### Its lines -/

theorem firstColumn_lines (h : m ≠ nil) (k : Nat) (ls : List Line) :
    firstColumn (m.lines k ++ ls) = k := by
  cases m with
  | nil => exact absurd rfl h
  | value | mapping => rfl

theorem firstColumn_lines_le {k : Nat} (h : firstColumn ls ≤ k) (m : Mapping) :
    firstColumn (m.lines k ++ ls) ≤ k := by
  by_cases hm : m = nil
  · simpa [hm, lines] using h
  · exact Nat.le_of_eq (firstColumn_lines hm k ls)

/-- Entries start a block for themselves where they are deeper than the innermost one. -/
theorem outlineTokens_lines_push (hm : m ≠ nil) {k : Nat} {blocks : List Nat}
    (h : indentOf blocks < k) (ls : List Line) :
    outlineTokens blocks (m.lines k ++ ls) =
      .blockMappingStart :: outlineTokens (k :: blocks) (m.lines k ++ ls) := by
  cases m with
  | nil => exact absurd rfl hm
  | value key w rest => exact outlineTokens_push (l := ⟨k, key, some w⟩) h _
  | mapping key inner rest => exact outlineTokens_push (l := ⟨k, key, none⟩) h _

/-- The tokens of entries within their block, whatever follows at their column or left of it. -/
theorem outlineTokens_lines (h : m.Readable) {k : Nat} (hls : firstColumn ls ≤ k)
    (blocks : List Nat) :
    outlineTokens (k :: blocks) (m.lines k ++ ls) = m.tokens ++ outlineTokens (k :: blocks) ls := by
  induction m generalizing k blocks ls with
  | nil => rfl
  | value key w rest ih =>
      have hline := outlineTokens_line ⟨k, key, some w⟩ (rest.lines k ++ ls) blocks
      have hrest := ih h.2.2 hls blocks
      simp only [lines, tokens, List.cons_append, hline, hrest]
      rfl
  | mapping key inner rest ihinner ihrest =>
      obtain ⟨hkey, hne, hinner, hrest⟩ := h
      have hbehind : firstColumn (rest.lines k ++ ls) ≤ k := firstColumn_lines_le hls rest
      have hline := outlineTokens_line ⟨k, key, none⟩
        (inner.lines (k + 2) ++ (rest.lines k ++ ls)) blocks
      have hpush := outlineTokens_lines_push hne
        (show indentOf (k :: blocks) < (k + 2 : Nat) by rw [indentOf_cons]; omega)
        (rest.lines k ++ ls)
      have hbelow : firstColumn (rest.lines k ++ ls) < k + 2 := by omega
      have hpop := outlineTokens_pop hbelow (k :: blocks)
      rw [ihinner hinner (by omega), hpop, ihrest hrest hls] at hpush
      simp only [lines, tokens, List.cons_append, List.append_assoc, hline, hpush]
      simp

theorem outlineTokens_lines_nil (h : m.Readable) (hne : m ≠ nil) :
    outlineTokens [] (m.lines 0) = .blockMappingStart :: (m.tokens ++ [.blockEnd]) := by
  have hpush := outlineTokens_lines_push hne (show indentOf [] < (0 : Nat) by decide) []
  have hall := outlineTokens_lines h (show firstColumn [] ≤ 0 from Nat.le_refl 0) []
  rw [List.append_nil] at hpush hall
  rw [hpush, hall]
  rfl

/-- The lines of readable entries are readable, before what is no deeper. -/
theorem readable_lines (h : m.Readable) {k : Nat} (hls : firstColumn ls ≤ k)
    (hreadable : Yaml.Readable ls) : Yaml.Readable (m.lines k ++ ls) := by
  induction m generalizing k ls with
  | nil => exact hreadable
  | value key w rest ih =>
      obtain ⟨hkey, hw, hrest⟩ := h
      refine ⟨hkey, ?_, ih hrest hls hreadable⟩
      rintro _ ⟨rfl⟩
      exact ⟨hw, firstColumn_lines_le hls rest⟩
  | mapping key inner rest ihinner ihrest =>
      obtain ⟨hkey, hne, hinner, hrest⟩ := h
      have hbehind : firstColumn (rest.lines k ++ ls) ≤ k := firstColumn_lines_le hls rest
      rw [lines, List.cons_append, List.append_assoc]
      exact ⟨hkey, by simp, ihinner hinner (by omega) (ihrest hrest hls hreadable)⟩

end Mapping

/-! ### Nodes -/

namespace Grammar

theorem bind_apply {α β : Type} (p : Grammar α) (f : α → Grammar β) (feed : Feed) :
    (p >>= f) feed = (p feed).bind fun r => f r.1 r.2 := rfl

theorem map_apply {α β : Type} (f : α → β) (p : Grammar α) (feed : Feed) :
    (f <$> p) feed = (p feed).bind fun r => some (f r.1, r.2) := rfl

theorem pure_apply {α : Type} (a : α) (feed : Feed) :
    (pure a : Grammar α) feed = some (a, feed) := rfl

variable {anchors : List (String × Nat)} {given : Nat}

theorem node_scalar (fuel : Nat) (inBlock unindented plain : Bool) (text : String)
    (rest : List Token) :
    node (fuel + 1) inBlock unindented ⟨.scalar plain text :: rest, anchors, given⟩ =
      some (.scalar none none plain text, ⟨rest, anchors, given⟩) := by
  rw [node]
  rfl

theorem blockPart_scalar (anchors : List (String × Nat)) (given fuel : Nat) (plain : Bool)
    (text : String) (rest : List Token) :
    blockPart (fuel + 2) ⟨.scalar plain text :: rest, anchors, given⟩ =
      some (.scalar none none plain text, ⟨rest, anchors, given⟩) := by
  rw [blockPart]
  exact node_scalar fuel true true plain text rest

theorem blockValue_written (anchors : List (String × Nat)) (given fuel : Nat) (w : Written)
    (rest : List Token) :
    blockValue (fuel + 3) ⟨.value :: w.token :: rest, anchors, given⟩ =
      some (w.node, ⟨rest, anchors, given⟩) := by
  rw [blockValue]
  cases w with
  | plain v => exact blockPart_scalar anchors given fuel true v rest
  | quoted escaped v => exact blockPart_scalar anchors given fuel false v rest

theorem node_mapping {fuel : Nat} {tokens rest : List Token} {entries : List (Node × Node)}
    (h : blockEntries fuel ⟨tokens, anchors, given⟩ = some (entries, ⟨rest, anchors, given⟩))
    (unindented : Bool) :
    node (fuel + 1) true unindented ⟨.blockMappingStart :: tokens, anchors, given⟩ =
      some (.map none entries, ⟨rest, anchors, given⟩) := by
  rw [node]
  simp [peek?, skip, properties, tag?, anchor?, bind_apply, map_apply, pure_apply, h]

theorem blockValue_mapping {fuel : Nat} {tokens rest : List Token} {entries : List (Node × Node)}
    (h : blockEntries fuel ⟨tokens, anchors, given⟩ = some (entries, ⟨rest, anchors, given⟩)) :
    blockValue (fuel + 3) ⟨.value :: .blockMappingStart :: tokens, anchors, given⟩ =
      some (.map none entries, ⟨rest, anchors, given⟩) := by
  rw [blockValue]
  simp only [peek?, skip, bind_apply, Option.bind_some, List.head?_cons, List.drop_one,
    List.tail_cons]
  rw [blockPart]
  exact node_mapping h true

/-- One unit of fuel is spent on each entry, and three are left for its parts. -/
theorem blockEntries_mapping (anchors : List (String × Nat)) (given : Nat) (m : Mapping)
    (fuel : Nat) (rest : List Token) :
    blockEntries (fuel + m.tokens.length + 3) ⟨m.tokens ++ .blockEnd :: rest, anchors, given⟩ =
      some (m.nodes, ⟨rest, anchors, given⟩) := by
  induction m generalizing fuel rest with
  | nil =>
      rw [blockEntries]
      rfl
  | value key w next ih =>
      have hkey := blockPart_scalar anchors given (fuel + next.tokens.length + 4) true key
        (.value :: w.token :: (next.tokens ++ .blockEnd :: rest))
      have hvalue := blockValue_written anchors given (fuel + next.tokens.length + 3) w
        (next.tokens ++ .blockEnd :: rest)
      have hnext := ih (fuel + 3) rest
      rw [show fuel + 3 + next.tokens.length + 3 = fuel + next.tokens.length + 6 by omega] at hnext
      have hfuel : fuel + (Mapping.value key w next).tokens.length + 3 =
          fuel + next.tokens.length + 6 + 1 := by
        simp only [Mapping.tokens, List.length_cons]
        omega
      rw [hfuel, blockEntries]
      simp [peek?, skip, bind_apply, map_apply, Mapping.tokens, hkey, hvalue, hnext, Mapping.nodes]
  | mapping key inner next ihinner ihnext =>
      have hkey := blockPart_scalar anchors given
        (fuel + inner.tokens.length + next.tokens.length + 5) true key (.value ::
          .blockMappingStart :: (inner.tokens ++ .blockEnd :: (next.tokens ++ .blockEnd :: rest)))
      have hinner := ihinner (fuel + next.tokens.length + 1) (next.tokens ++ .blockEnd :: rest)
      rw [show fuel + next.tokens.length + 1 + inner.tokens.length + 3 =
        fuel + inner.tokens.length + next.tokens.length + 4 by omega] at hinner
      have hvalue := blockValue_mapping hinner
      have hnext := ihnext (fuel + inner.tokens.length + 4) rest
      rw [show fuel + inner.tokens.length + 4 + next.tokens.length + 3 =
        fuel + inner.tokens.length + next.tokens.length + 7 by omega] at hnext
      have hfuel : fuel + (Mapping.mapping key inner next).tokens.length + 3 =
          fuel + inner.tokens.length + next.tokens.length + 7 + 1 := by
        simp only [Mapping.tokens, List.length_cons, List.length_append]
        omega
      rw [hfuel, blockEntries]
      simp [peek?, skip, bind_apply, map_apply, Mapping.tokens, hkey, hvalue, hnext, Mapping.nodes]

/-- A text of one mapping is one document, with or without the mark of its start. -/
theorem documents_mapping (m : Mapping) (fuel more : Nat) :
    Grammar.documents (fuel + m.tokens.length + 4) (more + 2) true
        ⟨.blockMappingStart :: (m.tokens ++ [.blockEnd]), [], 0⟩ =
      some ([.map none m.nodes], ⟨[], [], 0⟩) := by
  have hnode := node_mapping (blockEntries_mapping [] 0 m fuel []) false
  simp [Grammar.documents, skipDocumentEnds, peek?, bind_apply, pure_apply, modify, modifyGet,
    MonadStateOf.modifyGet, StateT.modifyGet, hnode]

theorem documents_marked_mapping (m : Mapping) (fuel more : Nat) :
    Grammar.documents (fuel + m.tokens.length + 4) (more + 2) true
        ⟨.documentStart :: .blockMappingStart :: (m.tokens ++ [.blockEnd]), [], 0⟩ =
      some ([.map none m.nodes], ⟨[], [], 0⟩) := by
  have hnode := node_mapping (blockEntries_mapping [] 0 m fuel []) false
  simp [Grammar.documents, explicitDocument, skipDirectives, skipDocumentEnds, peek?, skip,
    bind_apply, pure_apply, modify, modifyGet, MonadStateOf.modifyGet, StateT.modifyGet, hnode]

end Grammar

/-! ### The whole text -/

namespace Mapping

variable {m : Mapping}

/-- The text of a mapping that starts at the left. -/
def text (m : Mapping) : List Char := outlineText (m.lines 0)

theorem readable_lines_nil (h : m.Readable) : Yaml.Readable (m.lines 0) := by
  have hlines := readable_lines h (show firstColumn [] ≤ 0 from Nat.le_refl 0) trivial
  rwa [List.append_nil] at hlines

theorem tokens_text (h : m.Readable) (hne : m ≠ nil) :
    Yaml.tokens (String.ofList m.text) =
      .ok (.blockMappingStart :: (m.tokens ++ [.blockEnd])) := by
  have hlines := readable_lines_nil h
  have hrun := run_outline hlines .start rfl [] 0 0
  rw [outlineTokens_lines_nil h hne, Nat.zero_add] at hrun
  rw [Yaml.tokens, text, characters_ofList hlines.readAsIs]
  exact hrun

/-- The only document of a mapping holds its entries. -/
theorem documents_text (h : m.Readable) (hne : m ≠ nil) :
    documents (String.ofList m.text) = .ok [.map none m.nodes] := by
  have hparse := Grammar.documents_mapping m (m.tokens.length + 2) (m.tokens.length + 1)
  have hcount : (Token.blockMappingStart :: (m.tokens ++ [.blockEnd])).length =
      m.tokens.length + 2 := by
    simp
  rw [documents, tokens_text h hne]
  simp only [bind, Except.bind]
  rw [hcount,
    show 2 * (m.tokens.length + 2) + 2 = m.tokens.length + 2 + m.tokens.length + 4 by omega,
    hparse]

end Mapping

/-! ### Entries on lines of their own -/

/-- An entry as it is written on a line of its own. -/
def Scanner.entryText (e : String × String) : List Char :=
  e.1.toList ++ ':' :: ' ' :: ((scalar e.2).toList ++ ['\n'])

/-- A text of one document: its start, and the entries of a mapping. -/
def documentText (entries : List (String × String)) : List Char :=
  '-' :: '-' :: '-' :: '\n' :: entries.flatMap entryText

/-- The nodes of an entry. -/
def entryNodes (e : String × String) : Node × Node :=
  (.scalar none none true e.1, .scalar none none (!needsQuotes e.2) e.2)

namespace Mapping

/-- A text as the writer writes it. -/
def written (v : String) : Written := if needsQuotes v then .quoted escape v else .plain v

def ofEntries : List (String × String) → Mapping
  | [] => nil
  | e :: rest => value e.1 (written e.2) (ofEntries rest)

theorem written_text (v : String) : (written v).text = (scalar v).toList := by
  unfold written
  cases hv : needsQuotes v with
  | false => simp [Written.text, scalar_of_plain hv]
  | true => simp [Written.text, scalar_of_needsQuotes hv, quotedText]

theorem written_node (v : String) :
    (written v).node = .scalar none none (!needsQuotes v) v := by
  unfold written
  cases hv : needsQuotes v <;> simp [Written.node]

theorem written_readable (v : String) : (written v).Readable := by
  unfold written
  cases hv : needsQuotes v with
  | false => simpa [Written.Readable] using isPlain_of_needsQuotes_eq_false hv
  | true => simpa [Written.Readable] using fun c _ => escapeOf_escape c

variable {entries : List (String × String)}

theorem text_ofEntries (entries : List (String × String)) :
    (ofEntries entries).text = entries.flatMap entryText := by
  unfold text
  induction entries with
  | nil => rfl
  | cons e entries ih =>
      simp [ofEntries, lines, outlineText, Line.text, Line.content, written_text, entryText, ih]

theorem nodes_ofEntries (entries : List (String × String)) :
    (ofEntries entries).nodes = entries.map entryNodes := by
  induction entries with
  | nil => rfl
  | cons e entries ih => simp [ofEntries, nodes, written_node, entryNodes, ih]

theorem readable_ofEntries (h : ∀ e ∈ entries, IsKey e.1) : (ofEntries entries).Readable := by
  induction entries with
  | nil => trivial
  | cons e entries ih =>
      exact ⟨h e (by simp), written_readable e.2, ih fun d hd => h d (by simp [hd])⟩

end Mapping

theorem takes_documentStart (rest : List Char) :
    Takes 1 (Scanner.start ('-' :: '-' :: '-' :: '\n' :: rest))
      (withinBlocks rest ⟨1, 0, 4⟩ [.documentStart] [] 0) := by
  have hmark : Takes 1 (Scanner.start ('-' :: '-' :: '-' :: '\n' :: rest))
      (midLine ('\n' :: rest) ⟨0, 3, 3⟩ [.documentStart] (-1) [] 0) := by
    refine takes_one rfl (skipGap_of_ink rfl rfl rfl (by decide) _) (dropStale_of_none rfl)
      (unroll_of_le (show (-1 : Int) ≤ 0 by decide)) ?_
    rfl
  exact hmark.trans (takes_zero_of_skipGap rfl)

/-- The tokens of a mapping behind the mark of a document. -/
theorem tokens_marked_text {m : Mapping} (h : m.Readable) (hne : m ≠ .nil) :
    tokens (String.ofList ('-' :: '-' :: '-' :: '\n' :: m.text)) =
      .ok (.documentStart :: .blockMappingStart :: (m.tokens ++ [.blockEnd])) := by
  have hlines := Mapping.readable_lines_nil h
  have hread : ∀ c ∈ '-' :: '-' :: '-' :: '\n' :: m.text, c ≠ '\r' ∧ c ≠ '\x00' := by
    simpa [Mapping.text] using hlines.readAsIs
  have hrun := run_outline hlines ⟨1, 0, 4⟩ rfl [.documentStart] 0 3
  have hstart := takes_documentStart m.text (3 + m.text.length + 1)
  rw [Mapping.outlineTokens_lines_nil h hne] at hrun
  rw [tokens, characters_ofList hread]
  rw [show ('-' :: '-' :: '-' :: '\n' :: m.text).length + 1 = 3 + m.text.length + 1 + 1 by
    simp only [List.length_cons]; omega]
  simp only [hstart]
  exact hrun

theorem documents_marked_text {m : Mapping} (h : m.Readable) (hne : m ≠ .nil) :
    documents (String.ofList ('-' :: '-' :: '-' :: '\n' :: m.text)) = .ok [.map none m.nodes] := by
  have hparse := Grammar.documents_marked_mapping m (m.tokens.length + 4) (m.tokens.length + 2)
  have hcount : (Token.documentStart :: .blockMappingStart :: (m.tokens ++ [.blockEnd])).length =
      m.tokens.length + 3 := by
    simp
  rw [documents, tokens_marked_text h hne]
  simp only [bind, Except.bind]
  rw [hcount,
    show 2 * (m.tokens.length + 3) + 2 = m.tokens.length + 4 + m.tokens.length + 4 by omega,
    hparse]

/-- The only document of a written mapping holds its entries. -/
theorem documents_documentText {entries : List (String × String)} (hne : entries ≠ [])
    (h : ∀ e ∈ entries, IsKey e.1) :
    documents (String.ofList (documentText entries)) =
      .ok [.map none (entries.map entryNodes)] := by
  have hofEntries : Mapping.ofEntries entries ≠ .nil := by
    cases entries with
    | nil => exact absurd rfl hne
    | cons e entries => simp [Mapping.ofEntries]
  rw [documentText, ← Mapping.text_ofEntries,
    documents_marked_text (Mapping.readable_ofEntries h) hofEntries, Mapping.nodes_ofEntries]

end ScalingTrials.Yaml
