import ScalingTrials.Yaml.Token

/-!
The tokens of a YAML text in order. A key without an indicator of its own is recognised only at the
colon behind it; the marks that belong in front of it are put there afterwards.
-/

namespace ScalingTrials.Yaml

/-- Why a text cannot be read. `data` carries the path to the part at fault, if that is not the
document itself. -/
inductive Error where
  | malformed
  | tooDeep
  | tooManyReferences
  | noDocument
  | severalDocuments
  | data (path : Option String) (message : String)
  deriving DecidableEq, Repr

/-- A place where a key may have started: the number of tokens before it, and whether it has to turn
out to be one. -/
structure KeyStart where
  token : Nat
  pos : Pos
  required : Bool
  deriving DecidableEq, Repr

/-- How far a text has been taken apart. The tokens are newest first. `keys` holds the possible key
of every open flow collection, the innermost first, and of the block context last; `afterQuoted` is
the index behind the last quoted scalar. -/
structure Scanner where
  cursor : Cursor
  tokens : List Token
  count : Nat
  indent : Int
  indents : List Int
  flow : Nat
  keys : List (Option KeyStart)
  keyAllowed : Bool
  afterQuoted : Nat
  deriving DecidableEq, Repr

namespace Scanner

/-- A key is on one line and not longer than this. -/
def keyLength : Nat := 1024

/-- Flow collections nest at most this deep. -/
def flowLimit : Nat := 255

def start (text : List Char) : Scanner :=
  ⟨⟨text, .start⟩, [], 0, -1, [], 0, [none], true, 0⟩

def emit (s : Scanner) (t : Token) : Scanner :=
  { s with tokens := t :: s.tokens, count := s.count + 1 }

/-- Puts a token in front of the one with a number. -/
def insertAt (s : Scanner) (n : Nat) (t : Token) : Scanner :=
  let newer := s.count - n
  { s with tokens := s.tokens.take newer ++ t :: s.tokens.drop newer, count := s.count + 1 }

def inFlow (s : Scanner) : Bool := s.flow != 0

/-- The column below which a line no longer belongs to the innermost block. -/
def contentIndent (s : Scanner) : Nat := (s.indent + 1).toNat

/-- Skips blanks, comments and line breaks. A tab that could indent a key stays. -/
def skipGap (s : Scanner) : Nat → Scanner
  | 0 => s
  | fuel + 1 =>
    match s.cursor.peek? with
    | none => s
    | some c =>
      if c = ' ' ∨ (c = '\t' ∧ (s.inFlow ∨ ¬s.keyAllowed)) then
        skipGap { s with cursor := s.cursor.next } fuel
      else if isBreak c then
        skipGap { s with cursor := s.cursor.next, keyAllowed := s.keyAllowed || !s.inFlow } fuel
      else if c = '#' then skipGap { s with cursor := s.cursor.skipLine } fuel
      else s

/-- Whether a key that started there can no longer end at the cursor. -/
def isStale (s : Scanner) (k : KeyStart) : Bool :=
  k.pos.line < s.cursor.pos.line || k.pos.index + keyLength < s.cursor.pos.index

/-- Forgets the keys that can no longer be; one that was required is missed. -/
def dropStale (s : Scanner) : Except Error Scanner :=
  if s.keys.any fun k => match k with
      | some k => s.isStale k && k.required
      | none => false then
    .error .malformed
  else
    .ok { s with keys := s.keys.map fun k => k.bind fun k => if s.isStale k then none else some k }

/-- Forgets the innermost possible key. -/
def dropKey (s : Scanner) : Except Error Scanner :=
  match s.keys with
  | some k :: rest =>
    if k.required then .error .malformed else .ok { s with keys := none :: rest }
  | _ => .ok s

/-- Notes that a key may start at the cursor. -/
def saveKey (s : Scanner) : Except Error Scanner :=
  if s.keyAllowed then do
    let s ← s.dropKey
    let key : KeyStart := ⟨s.count, s.cursor.pos, s.inFlow && s.indent == s.cursor.pos.column⟩
    .ok { s with keys := some key :: s.keys.drop 1 }
  else .ok s

/-- The marks of the blocks that are indented deeper than a column, innermost first, and the
enclosing ones. -/
def closing (column : Int) : Int → List Int → Nat × Int × List Int
  | indent, [] => (0, indent, [])
  | indent, outer :: rest =>
    if column < indent then
      let (n, indent, rest) := closing column outer rest
      (n + 1, indent, rest)
    else (0, indent, outer :: rest)

/-- Ends the blocks that are indented deeper than a column. -/
def unroll (s : Scanner) (column : Int) : Scanner :=
  if s.inFlow then s
  else
    let (n, indent, indents) := closing column s.indent s.indents
    { s with
      tokens := List.replicate n .blockEnd ++ s.tokens
      count := s.count + n
      indent := indent
      indents := indents }

/-- Starts a block at a column that is deeper than the innermost, with its mark in front of the
token with a number, or behind all. -/
def roll (s : Scanner) (column : Nat) (before : Option Nat) (mark : Token) : Scanner :=
  if s.inFlow ∨ (column : Int) ≤ s.indent then s
  else
    let s := { s with indents := s.indent :: s.indents, indent := column }
    match before with
    | some n => s.insertAt n mark
    | none => s.emit mark

/-- Emits a token that takes some characters. -/
def take (s : Scanner) (n : Nat) (t : Token) : Scanner :=
  { s with cursor := s.cursor.nextN n }.emit t

def allowKey (s : Scanner) (b : Bool) : Scanner := { s with keyAllowed := b }

def directive (s : Scanner) : Except Error Scanner := do
  let s ← (s.unroll (-1)).dropKey
  match s.cursor.directive? with
  | some cursor => .ok ({ s with cursor := cursor, keyAllowed := false }.emit .directive)
  | none => .error .malformed

def documentMark (s : Scanner) (t : Token) : Except Error Scanner := do
  let s ← (s.unroll (-1)).dropKey
  .ok ((s.allowKey false).take 3 t)

def flowStart (s : Scanner) (t : Token) : Except Error Scanner := do
  let s ← s.saveKey
  if flowLimit ≤ s.flow then .error .tooDeep
  else
    .ok ({ s with keys := none :: s.keys, flow := s.flow + 1, keyAllowed := true }.take 1 t)

def flowEnd (s : Scanner) (t : Token) : Except Error Scanner := do
  let s ← s.dropKey
  let s := if s.inFlow then { s with flow := s.flow - 1, keys := s.keys.drop 1 } else s
  .ok ((s.allowKey false).take 1 t)

def flowEntry (s : Scanner) : Except Error Scanner := do
  let s ← s.dropKey
  .ok ((s.allowKey true).take 1 .flowEntry)

def blockEntry (s : Scanner) : Except Error Scanner :=
  if s.inFlow ∨ ¬s.keyAllowed then .error .malformed
  else do
    let s ← (s.roll s.cursor.pos.column none .blockSequenceStart).dropKey
    .ok ((s.allowKey true).take 1 .blockEntry)

def explicitKey (s : Scanner) : Except Error Scanner :=
  if ¬s.inFlow ∧ ¬s.keyAllowed then .error .malformed
  else do
    let s ← (s.roll s.cursor.pos.column none .blockMappingStart).dropKey
    .ok ((s.allowKey !s.inFlow).take 1 .key)

/-- The colon behind a key: a possible key becomes one, and without one an explicit key or none at
all stands before it. -/
def valueMark (s : Scanner) : Except Error Scanner :=
  match s.keys with
  | some k :: rest =>
    let s := (s.insertAt k.token .key).roll k.pos.column (some k.token) .blockMappingStart
    .ok (({ s with keys := none :: rest }.allowKey false).take 1 .value)
  | _ =>
    if s.inFlow then .ok ((s.allowKey false).take 1 .value)
    else if s.keyAllowed then
      .ok (((s.roll s.cursor.pos.column none .blockMappingStart).allowKey true).take 1 .value)
    else .error .malformed

/-- Emits a scalar that was read, behind which a key may start only on a new line. -/
def scanned (s : Scanner) (plain : Bool) (found : Option Scanned) : Except Error Scanner :=
  match found with
  | some r =>
    .ok ({ s with cursor := r.cursor, keyAllowed := r.broken }.emit
      (.scalar plain (String.ofList r.text.reverse)))
  | none => .error .malformed

def plain (s : Scanner) : Except Error Scanner := do
  let s ← s.saveKey
  s.scanned true (s.cursor.plain? s.inFlow s.contentIndent)

def quoted (s : Scanner) (found : Option Scanned) : Except Error Scanner := do
  let s ← s.saveKey
  let s ← s.scanned false found
  .ok { s with afterQuoted := s.cursor.pos.index }

def block (s : Scanner) (literal : Bool) : Except Error Scanner := do
  let s ← s.saveKey
  s.scanned false (s.cursor.block? literal s.indent)

def named (s : Scanner) (t : String → Token) : Except Error Scanner := do
  let s ← s.saveKey
  match s.cursor.anchorName? with
  | some (name, cursor) => .ok ({ s with cursor := cursor, keyAllowed := false }.emit (t name))
  | none => .error .malformed

def tag (s : Scanner) : Except Error Scanner := do
  let s ← s.saveKey
  match s.cursor.tag? with
  | some (t, cursor) => .ok ({ s with cursor := cursor, keyAllowed := false }.emit t)
  | none => .error .malformed

/-- Whether the character ends a key when a gap does not follow: within a flow collection, before a
character of its structure or directly behind a quoted scalar. -/
def closesFlowKey (s : Scanner) (rest : List Char) : Bool :=
  s.inFlow && ((rest.head?.map isFlow).getD false || s.cursor.pos.index == s.afterQuoted)

/-- The next token, which starts with a given character at the cursor. -/
def dispatch (s : Scanner) (c : Char) (rest : List Char) : Except Error Scanner :=
  if s.cursor.pos.column = 0 ∧ c = '%' then s.directive
  else if s.cursor.pos.column = 0 ∧ isMarker '-' (c :: rest) then s.documentMark .documentStart
  else if s.cursor.pos.column = 0 ∧ isMarker '.' (c :: rest) then s.documentMark .documentEnd
  else if c = '[' then s.flowStart .flowSequenceStart
  else if c = '\x7b' then s.flowStart .flowMappingStart
  else if c = ']' then s.flowEnd .flowSequenceEnd
  else if c = '\x7d' then s.flowEnd .flowMappingEnd
  else if c = ',' then s.flowEntry
  else if c = '-' ∧ atGap rest then s.blockEntry
  else if c = '?' ∧ atGap rest then s.explicitKey
  else if c = ':' ∧ (atGap rest ∨ s.closesFlowKey rest) then s.valueMark
  else if c = '*' then s.named .reference
  else if c = '&' then s.named .anchor
  else if c = '!' then s.tag
  else if c = '|' ∧ ¬s.inFlow then s.block true
  else if c = '>' ∧ ¬s.inFlow then s.block false
  else if c = '\'' then s.quoted s.cursor.single?
  else if c = '"' then s.quoted s.cursor.double?
  else if c = '%' ∨ c = '@' ∨ c.toNat = 96 then .error .malformed
  else s.plain

/-- The end of the text closes every block. -/
def finish (s : Scanner) : Except Error (List Token) := do
  let s ← (s.unroll (-1)).dropKey
  .ok s.tokens.reverse

/-- Takes tokens off a text until it ends. Each takes a character at least. -/
def run : Nat → Scanner → Except Error (List Token)
  | 0, _ => .error .malformed
  | fuel + 1, s => do
    let s ← (s.skipGap s.cursor.rest.length).dropStale
    let s := s.unroll s.cursor.pos.column
    match s.cursor.rest with
    | [] => s.finish
    | c :: rest => run fuel (← s.dispatch c rest)

end Scanner

/-- The tokens of a text. -/
def tokens (text : String) : Except Error (List Token) :=
  let cs := characters text
  (Scanner.start cs).run (cs.length + 1)

end ScalingTrials.Yaml
