import ScalingTrials.Yaml.Flow

/-!
Literal and folded block scalars: the header, the indentation, and the line breaks that are kept,
folded or dropped.
-/

namespace ScalingTrials.Yaml

/-- What becomes of the line breaks at the end of a block scalar. -/
inductive Chomping where
  | strip
  | clip
  | keep
  deriving DecidableEq, Repr

/-- The header of a block scalar; an indentation of zero is to be found from the text. -/
structure BlockHeader where
  chomping : Chomping
  indentation : Nat
  deriving DecidableEq, Repr

def chomping? (c : Char) : Option Chomping :=
  if c = '+' then some .keep else if c = '-' then some .strip else none

/-- An indentation of one to nine; a zero is refused. -/
def indentationOf (c : Cursor) : Option (Nat × Cursor) :=
  match c.peek? with
  | some d =>
    if isDigit d then if d = '0' then none else some (d.toNat - 48, c.next) else some (0, c)
  | none => some (0, c)

def chompingOf (c : Cursor) : Chomping × Cursor :=
  match c.peek?.bind chomping? with
  | some chomping => (chomping, c.next)
  | none => (.clip, c)

/-- The indicators of the header in either order. -/
def BlockHeader.indicators? (c : Cursor) : Option (BlockHeader × Cursor) :=
  match c.peek?.bind chomping? with
  | some chomping => (indentationOf c.next).map fun (n, after) => (⟨chomping, n⟩, after)
  | none => (indentationOf c).map fun (n, after) =>
    if n = 0 then (⟨.clip, 0⟩, after)
    else (⟨(chompingOf after).1, n⟩, (chompingOf after).2)

/-- The header behind the scalar's indicator, with the comment and line break after it. -/
def BlockHeader.scan? (c : Cursor) : Option (BlockHeader × Cursor) :=
  (indicators? c).bind fun (header, after) =>
    if atLineEnd after.skipComment.rest then some (header, after.skipComment.next) else none

/-- How far a block scalar has been read. `indent` is zero until it is known, `deepest` is the
deepest column of the lines before, `lineBreak` says that a line break is pending behind the last
line, `breaks` counts the empty lines after it, and `blankStart` says that the last line started
with a blank. -/
structure BlockText where
  text : List Char
  indent : Nat
  deepest : Nat
  lineBreak : Bool
  breaks : Nat
  blankStart : Bool
  deriving DecidableEq, Repr

namespace BlockText

/-- The indentation, at least one and at least that of the surroundings, once a line shows it. -/
def settle (least : Nat) (b : BlockText) : BlockText :=
  if b.indent = 0 then { b with indent := max 1 (max least b.deepest) } else b

/-- Joins a line that starts with a character to what stands before it. -/
def startLine (literal : Bool) (c : Char) (b : BlockText) : BlockText :=
  let folds := !literal && b.lineBreak && !b.blankStart && !isBlank c
  let text :=
    if folds then (if b.breaks = 0 then ' ' :: b.text else b.text)
    else if b.lineBreak then '\n' :: b.text else b.text
  { b with
    text := List.replicate b.breaks '\n' ++ text
    lineBreak := false
    breaks := 0
    blankStart := isBlank c }

def finish (chomping : Chomping) (b : BlockText) : List Char :=
  let text := if b.lineBreak ∧ chomping ≠ .strip then '\n' :: b.text else b.text
  if chomping = .keep then List.replicate b.breaks '\n' ++ text else text

end BlockText

/-- Reads the lines of a block scalar, either within a line or before its first character. -/
def blockFrom (literal : Bool) (least : Nat) :
    Bool → List Char → Pos → BlockText → Option (BlockText × Cursor)
  | true, [], pos, b => some (b, ⟨[], pos⟩)
  | true, c :: rest, pos, b =>
    if isBreak c then blockFrom literal least false rest (pos.next c) { b with lineBreak := true }
    else blockFrom literal least true rest (pos.next c) { b with text := c :: b.text }
  | false, [], pos, b => some (b, ⟨[], pos⟩)
  | false, c :: rest, pos, b =>
    let inMargin := b.indent = 0 ∨ pos.column < b.indent
    if c = ' ' ∧ inMargin then blockFrom literal least false rest (pos.next c) b
    else if c = '\t' ∧ inMargin then none
    else
      let b := { b with deepest := max b.deepest pos.column }
      if isBreak c then
        blockFrom literal least false rest (pos.next c) { b with breaks := b.breaks + 1 }
      else
        let b := b.settle least
        if pos.column = b.indent then
          let b := b.startLine literal c
          blockFrom literal least true rest (pos.next c) { b with text := c :: b.text }
        else some (b, ⟨c :: rest, pos⟩)

/-- The block scalar whose indicator is next, within surroundings indented to `indent`. -/
def Cursor.block? (c : Cursor) (literal : Bool) (indent : Int) : Option Scanned := do
  let (header, c) ← BlockHeader.scan? c.next
  let fixed := if header.indentation = 0 then 0 else indent.toNat + header.indentation
  let (b, c) ← blockFrom literal (indent + 1).toNat false c.rest c.pos
    ⟨[], fixed, 0, false, 0, false⟩
  some ⟨b.finish header.chomping, c, true⟩

end ScalingTrials.Yaml
