import ScalingTrials.Yaml.Cursor

/-!
Plain and quoted scalars. Both fold white space between their words: blanks stay, a single line
break becomes a space, and of several the first is dropped.
-/

namespace ScalingTrials.Yaml

/-- White space met since the last word: blanks, newest first, or a line break, plain or escaped,
with the number of further line breaks. -/
inductive Gap where
  | none
  | blanks (newestFirst : List Char)
  | folded (further : Nat)
  | escaped (further : Nat)
  deriving DecidableEq, Repr

namespace Gap

/-- A blank at the start of a line is dropped. -/
def blank (c : Char) : Gap → Gap
  | none => blanks [c]
  | blanks cs => blanks (c :: cs)
  | gap => gap

/-- A line break drops the blanks before it. -/
def lineBreak : Gap → Gap
  | none => folded 0
  | blanks _ => folded 0
  | folded n => folded (n + 1)
  | escaped n => escaped (n + 1)

def isBroken : Gap → Bool
  | none => false
  | blanks _ => false
  | folded _ => true
  | escaped _ => true

/-- What the gap contributes to the scalar, newest first. -/
def text : Gap → List Char
  | none => []
  | blanks cs => cs
  | folded 0 => [' ']
  | folded n => List.replicate n '\n'
  | escaped n => List.replicate n '\n'

end Gap

/-- A scalar that was read: its characters newest first, the cursor behind it, and whether a line
break was passed behind its last word. -/
structure Scanned where
  text : List Char
  cursor : Cursor
  broken : Bool
  deriving DecidableEq, Repr

/-- Where a plain scalar ends before a character that is neither blank nor a line break: at a line
that is not indented enough, a document mark, a comment, a colon before a gap, or, within a flow
collection, a character of its structure. -/
def plainEnds (inFlow : Bool) (indent : Nat) (gap : Gap) (pos : Pos) (c : Char)
    (rest : List Char) : Bool :=
  (gap != .none && ((!inFlow && pos.column < indent) ||
    (pos.column == 0 && isDocumentMark (c :: rest)) || c == '#')) ||
  (c == ':' && (atGap rest || (inFlow && (rest.head?.map isFlow).getD false))) ||
  (inFlow && isFlow c)

/-- Reads a plain scalar whose further lines are indented to a column. A tab in the indentation of
such a line is refused. -/
def plainFrom (inFlow : Bool) (indent : Nat) :
    List Char → Pos → Gap → List Char → Option Scanned
  | [], pos, gap, acc => some ⟨acc, ⟨[], pos⟩, gap.isBroken⟩
  | c :: rest, pos, gap, acc =>
    if isBreak c then plainFrom inFlow indent rest (pos.next c) gap.lineBreak acc
    else if isBlank c then
      if gap.isBroken && pos.column < indent && c == '\t' then none
      else plainFrom inFlow indent rest (pos.next c) (gap.blank c) acc
    else if plainEnds inFlow indent gap pos c rest then
      some ⟨acc, ⟨c :: rest, pos⟩, gap.isBroken⟩
    else plainFrom inFlow indent rest (pos.next c) .none (c :: (gap.text ++ acc))

/-- Reads a single-quoted scalar behind its opening quote; two quotes stand for one. -/
def singleFrom : List Char → Pos → Gap → List Char → Option Scanned
  | [], _, _, _ => none
  | c :: rest, pos, gap, acc =>
    if isBreak c then singleFrom rest (pos.next c) gap.lineBreak acc
    else if isBlank c then singleFrom rest (pos.next c) (gap.blank c) acc
    else if pos.column == 0 && isDocumentMark (c :: rest) then none
    else if c = '\'' then
      match rest with
      | '\'' :: rest =>
        singleFrom rest ((pos.next '\'').next '\'') .none ('\'' :: (gap.text ++ acc))
      | rest => some ⟨gap.text ++ acc, ⟨rest, pos.next '\''⟩, false⟩
    else singleFrom rest (pos.next c) .none (c :: (gap.text ++ acc))

/-- Characters of a double-quoted scalar that stand for another behind a backslash. -/
def escaped? (c : Char) : Option Char :=
  if c = '0' then some '\x00'
  else if c = 'a' then some '\x07'
  else if c = 'b' then some '\x08'
  else if c = 't' ∨ c = '\t' then some '\t'
  else if c = 'n' then some '\n'
  else if c = 'v' then some '\x0b'
  else if c = 'f' then some '\x0c'
  else if c = 'r' then some '\r'
  else if c = 'e' then some '\x1b'
  else if c = ' ' ∨ c = '"' ∨ c = '\'' ∨ c = '\\' then some c
  else if c = 'N' then some (Char.ofNat 0x85)
  else if c = '_' then some (Char.ofNat 0xA0)
  else if c = 'L' then some (Char.ofNat 0x2028)
  else if c = 'P' then some (Char.ofNat 0x2029)
  else none

/-- The number of hexadecimal digits behind an escape by number. -/
def hexCount? (c : Char) : Option Nat :=
  if c = 'x' then some 2 else if c = 'u' then some 4 else if c = 'U' then some 8 else none

/-- The character with a number, unless no character has it. -/
def charOf? (n : Nat) : Option Char := if n.isValidChar then some (Char.ofNat n) else none

/-- Where a double-quoted scalar stands: in text, behind a backslash, or among the digits of an
escape by number, with one more than the digits that follow the next. -/
inductive Escape where
  | no
  | letter
  | digits (left value : Nat)
  deriving DecidableEq, Repr

/-- Reads a double-quoted scalar behind its opening quote. -/
def doubleFrom : List Char → Pos → Escape → Gap → List Char → Option Scanned
  | [], _, _, _, _ => none
  | c :: rest, pos, .no, gap, acc =>
    if isBreak c then doubleFrom rest (pos.next c) .no gap.lineBreak acc
    else if isBlank c then doubleFrom rest (pos.next c) .no (gap.blank c) acc
    else if pos.column == 0 && isDocumentMark (c :: rest) then none
    else if c = '"' then some ⟨gap.text ++ acc, ⟨rest, pos.next c⟩, false⟩
    else if c = '\\' then doubleFrom rest (pos.next c) .letter .none (gap.text ++ acc)
    else doubleFrom rest (pos.next c) .no .none (c :: (gap.text ++ acc))
  | c :: rest, pos, .letter, _, acc =>
    if isBreak c then doubleFrom rest (pos.next c) .no (.escaped 0) acc
    else
      match escaped? c, hexCount? c with
      | some x, _ => doubleFrom rest (pos.next c) .no .none (x :: acc)
      | none, some n => doubleFrom rest (pos.next c) (.digits n 0) .none acc
      | none, none => none
  | c :: rest, pos, .digits left value, _, acc =>
    match hexValue? c with
    | none => none
    | some digit =>
      let value := 16 * value + digit
      if 1 < left then doubleFrom rest (pos.next c) (.digits (left - 1) value) .none acc
      else
        match charOf? value with
        | some x => doubleFrom rest (pos.next c) .no .none (x :: acc)
        | none => none

namespace Cursor

def plain? (c : Cursor) (inFlow : Bool) (indent : Nat) : Option Scanned :=
  plainFrom inFlow indent c.rest c.pos .none []

/-- The single-quoted scalar whose opening quote is next. -/
def single? (c : Cursor) : Option Scanned := singleFrom c.next.rest c.next.pos .none []

/-- The double-quoted scalar whose opening quote is next. -/
def double? (c : Cursor) : Option Scanned := doubleFrom c.next.rest c.next.pos .no .none []

end Cursor

end ScalingTrials.Yaml
