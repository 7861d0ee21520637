/-!
Characters of a YAML text, and the place that a reader has come to. A line feed starts a new line; a
carriage return on its own breaks a line for the reader but leaves the column running.
-/

namespace ScalingTrials.Yaml

def isBreak (c : Char) : Bool := c == '\n' || c == '\r'

def isBlank (c : Char) : Bool := c == ' ' || c == '\t'

def isDigit (c : Char) : Bool := '0' ≤ c && c ≤ '9'

/-- Characters of anchors, directive names and tag handles. -/
def isWord (c : Char) : Bool :=
  isDigit c || ('a' ≤ c && c ≤ 'z') || ('A' ≤ c && c ≤ 'Z') || c == '_' || c == '-'

/-- Characters that structure flow collections. -/
def isFlow (c : Char) : Bool :=
  c == ',' || c == '[' || c == ']' || c == '\x7b' || c == '\x7d'

def hexValue? (c : Char) : Option Nat :=
  if '0' ≤ c ∧ c ≤ '9' then some (c.toNat - 48)
  else if 'a' ≤ c ∧ c ≤ 'f' then some (c.toNat - 87)
  else if 'A' ≤ c ∧ c ≤ 'F' then some (c.toNat - 55)
  else none

/-- Whether a text is at its end, a blank or a line break. -/
def atGap : List Char → Bool
  | [] => true
  | c :: _ => isBlank c || isBreak c

/-- Whether a text is at its end or a line break. -/
def atLineEnd : List Char → Bool
  | [] => true
  | c :: _ => isBreak c

/-- Three equal characters and a gap, as at the border of a document. -/
def isMarker (c : Char) : List Char → Bool
  | x :: y :: z :: rest => x == c && y == c && z == c && atGap rest
  | _ => false

/-- Whether a text goes on with a mark that starts or ends a document. -/
def isDocumentMark (cs : List Char) : Bool := isMarker '-' cs || isMarker '.' cs

/-- The place of a character: its line, its column, and the number of characters before it. -/
structure Pos where
  line : Nat
  column : Nat
  index : Nat
  deriving DecidableEq, Repr

def Pos.start : Pos := ⟨0, 0, 0⟩

/-- The place behind a character. -/
def Pos.next (p : Pos) (c : Char) : Pos :=
  if c = '\n' then ⟨p.line + 1, 0, p.index + 1⟩ else ⟨p.line, p.column + 1, p.index + 1⟩

/-- The text still to be read, and its place. -/
structure Cursor where
  rest : List Char
  pos : Pos
  deriving DecidableEq, Repr

namespace Cursor

def peek? (c : Cursor) : Option Char := c.rest.head?

/-- The cursor behind the next character. -/
def next (c : Cursor) : Cursor :=
  match c.rest with
  | [] => c
  | x :: rest => ⟨rest, c.pos.next x⟩

def nextN : Nat → Cursor → Cursor
  | 0, c => c
  | n + 1, c => nextN n c.next

/-- The characters up to the first that fails a test, newest first, and the cursor there. -/
def spanFrom (p : Char → Bool) (acc : List Char) : List Char → Pos → List Char × Cursor
  | [], pos => (acc, ⟨[], pos⟩)
  | x :: rest, pos =>
    if p x then spanFrom p (x :: acc) rest (pos.next x) else (acc, ⟨x :: rest, pos⟩)

/-- The characters up to the first that fails a test, in order, and the cursor there. -/
def span (p : Char → Bool) (c : Cursor) : List Char × Cursor :=
  let (taken, after) := spanFrom p [] c.rest c.pos
  (taken.reverse, after)

def skipWhile (p : Char → Bool) (c : Cursor) : Cursor := (c.span p).2

def skipBlanks (c : Cursor) : Cursor := c.skipWhile isBlank

def skipLine (c : Cursor) : Cursor := c.skipWhile fun x => !isBreak x

/-- Skips blanks and a comment; a comment needs no blank before it here. -/
def skipComment (c : Cursor) : Cursor :=
  let c := c.skipBlanks
  if c.peek? = some '#' then c.skipLine else c

end Cursor

/-- Carriage return and line feed together are one line break. -/
def joinBreaks : List Char → List Char
  | [] => []
  | '\r' :: '\n' :: rest => '\n' :: joinBreaks rest
  | c :: rest => c :: joinBreaks rest

/-- The characters to be read: a null character ends the text. -/
def characters (text : String) : List Char :=
  joinBreaks (text.toList.takeWhile fun c => c != '\x00')

end ScalingTrials.Yaml
