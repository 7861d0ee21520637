import ScalingTrials.Yaml.Block

/-!
Tokens of a YAML text, and the small ones among them: anchors, references, tags and directives.
-/

namespace ScalingTrials.Yaml

inductive Token where
  | directive
  | documentStart
  | documentEnd
  | blockSequenceStart
  | blockMappingStart
  | blockEnd
  | flowSequenceStart
  | flowSequenceEnd
  | flowMappingStart
  | flowMappingEnd
  | blockEntry
  | flowEntry
  | key
  | value
  | anchor (name : String)
  | reference (name : String)
  | tag (handle suffix : String)
  | scalar (plain : Bool) (text : String)
  deriving DecidableEq, Repr

/-- Characters that may follow the name of an anchor directly. -/
def followsName (c : Char) : Bool :=
  c == '?' || c == ':' || c == ',' || c == ']' || c == '\x7d' || c == '%' || c == '@' ||
    c.toNat == 96

/-- Characters of a tag's address; the percent sign starts an escape. -/
def isAddress (c : Char) : Bool :=
  isWord c || c == ';' || c == '/' || c == '?' || c == ':' || c == '@' || c == '&' || c == '=' ||
    c == '+' || c == '$' || c == ',' || c == '.' || c == '!' || c == '~' || c == '*' ||
    c == '\'' || c == '(' || c == ')' || c == '[' || c == ']' || c == '%'

namespace Cursor

/-- The name behind the indicator of an anchor or reference. -/
def anchorName? (c : Cursor) : Option (String × Cursor) :=
  let (name, after) := c.next.span isWord
  if name ≠ [] ∧ (atGap after.rest ∨ (after.peek?.map followsName).getD false = true) then
    some (String.ofList name, after)
  else none

/-- An octet written as a percent sign and two hexadecimal digits. -/
def octet? : List Char → Option (Nat × List Char)
  | '%' :: a :: b :: rest => do
    let a ← hexValue? a
    let b ← hexValue? b
    some (16 * a + b, rest)
  | _ => none

/-- A character written as escaped octets. The octets are read side by side as one number, so a
character of two octets is the one of that number, and none has more. -/
def escapedAddress? (cs : List Char) : Option (Char × List Char) := do
  let (first, rest) ← octet? cs
  if first < 0x80 then some (Char.ofNat first, rest)
  else if 0xC0 ≤ first ∧ first < 0xE0 then
    let (second, rest) ← octet? rest
    if 0x80 ≤ second ∧ second < 0xC0 then
      (charOf? (256 * first + second)).map fun x => (x, rest)
    else none
  else none

/-- Reads an address as far as it goes, newest character first. -/
def addressFrom : Nat → List Char → Cursor → Option (List Char × Cursor)
  | 0, acc, c => some (acc, c)
  | fuel + 1, acc, c =>
    match c.peek? with
    | none => some (acc, c)
    | some x =>
      if x = '%' then
        match escapedAddress? c.rest with
        | some (y, rest) => addressFrom fuel (y :: acc) (c.nextN (c.rest.length - rest.length))
        | none => none
      else if isAddress x then addressFrom fuel (x :: acc) c.next
      else some (acc, c)

/-- The address that goes on from `start`, which may not be empty unless a tag had started. -/
def address? (c : Cursor) (start : List Char) (started : Bool) : Option (String × Cursor) :=
  (addressFrom c.rest.length start.reverse c).bind fun (address, after) =>
    if started || address ≠ [] then some (String.ofList address.reverse, after) else none

/-- The characters of a tag's handle: the mark, a word, and a mark if one follows. -/
def tagHandle? (c : Cursor) : Option (List Char × Cursor) :=
  if c.peek? = some '!' then
    let (word, after) := c.next.span isWord
    if after.peek? = some '!' then some ('!' :: word ++ ['!'], after.next)
    else some ('!' :: word, after)
  else none

/-- The tag at the cursor, as its handle and what stands behind it. -/
def tag? (c : Cursor) : Option (Token × Cursor) := do
  let (handle, suffix, after) ←
    if c.next.peek? = some '<' then
      let (suffix, after) ← (c.nextN 2).address? [] false
      if after.peek? = some '>' then some ("", suffix, after.next) else none
    else
      let (handle, after) ← c.tagHandle?
      if 2 ≤ handle.length ∧ handle.getLast? = some '!' then
        let (suffix, after) ← after.address? [] false
        some (String.ofList handle, suffix, after)
      else
        let (suffix, after) ← after.address? (handle.drop 1) true
        if suffix = "" then some ("", "!", after) else some ("!", suffix, after)
  if atGap after.rest then some (.tag handle suffix, after) else none

/-- A number of a version: one to nine digits. -/
def versionNumber? (c : Cursor) : Option Cursor :=
  let (digits, after) := c.span isDigit
  if digits ≠ [] ∧ digits.length ≤ 9 then some after else none

/-- What follows the name of a directive. The content plays no part in reading the documents, yet
it has to be well formed where the name is known. -/
def directiveContent? (c : Cursor) (name : List Char) : Option Cursor :=
  if name = ['Y', 'A', 'M', 'L'] then do
    let after ← c.skipBlanks.versionNumber?
    if after.peek? = some '.' then after.next.versionNumber? else none
  else if name = ['T', 'A', 'G'] then do
    let (handle, after) ← c.skipBlanks.tagHandle?
    if handle.getLast? = some '!' then
      let (_, after) ← after.skipBlanks.address? [] false
      if atGap after.rest then some after else none
    else none
  else some c.skipLine

/-- The cursor behind the directive at the cursor and its line break. -/
def directive? (c : Cursor) : Option Cursor := do
  let (name, after) := c.next.span isWord
  if name = [] ∨ ¬atGap after.rest then none
  let after ← after.directiveContent? name
  let after := after.skipComment
  if atLineEnd after.rest then some after.next else none

end Cursor

end ScalingTrials.Yaml
