import ScalingTrials.Json

/-!
Structured values as text, on one line or indented by two spaces a level.
-/

namespace ScalingTrials.Json

/-- Two hexadecimal digits in lower case. -/
def twoHexDigits (n : Nat) : List Char :=
  if n < 16 then '0' :: Text.hexDigits n else Text.hexDigits n

def escape (c : Char) : List Char :=
  if c = '"' then ['\\', '"']
  else if c = '\\' then ['\\', '\\']
  else if c = '\n' then ['\\', 'n']
  else if c = '\r' then ['\\', 'r']
  else if c = '\t' then ['\\', 't']
  else if c = '\x08' then ['\\', 'b']
  else if c = '\x0c' then ['\\', 'f']
  else if c.toNat < 32 then '\\' :: 'u' :: '0' :: '0' :: twoHexDigits c.toNat
  else [c]

def quote (s : String) : String :=
  String.ofList ('"' :: s.toList.flatMap escape ++ ['"'])

/-- The text of a value without parts. -/
def renderScalar : Json → String
  | null => "null"
  | bool true => "true"
  | bool false => "false"
  | int n => toString n
  | float x => x.render Binary64.documentLayout
  | str s => quote s
  | arr _ => "[]"
  | obj _ => "\x7b\x7d"

mutual

/-- The value on one line, without spaces between its parts. -/
def compact : Json → String
  | arr items => "[" ++ ",".intercalate (compactItems items) ++ "]"
  | obj members => "\x7b" ++ ",".intercalate (compactMembers members) ++ "\x7d"
  | j => renderScalar j

def compactItems : List Json → List String
  | [] => []
  | j :: rest => compact j :: compactItems rest

def compactMembers : List (String × Json) → List String
  | [] => []
  | (k, j) :: rest => (quote k ++ ":" ++ compact j) :: compactMembers rest

end

/-- A new line at a level of indentation. -/
def newLine (level : Nat) : String := String.ofList ('\n' :: List.replicate (2 * level) ' ')

/-- Parts on lines of their own, one level deeper than the brackets around them. -/
def block (level : Nat) (opening closing : String) (parts : List String) : String :=
  match parts with
  | [] => opening ++ closing
  | parts =>
    let line := newLine (level + 1)
    opening ++ line ++ ("," ++ line).intercalate parts ++ newLine level ++ closing

mutual

/-- The value with every part on a line of its own. -/
def indented (level : Nat) : Json → String
  | arr items => block level "[" "]" (indentedItems (level + 1) items)
  | obj members => block level "\x7b" "\x7d" (indentedMembers (level + 1) members)
  | j => renderScalar j

def indentedItems (level : Nat) : List Json → List String
  | [] => []
  | j :: rest => indented level j :: indentedItems level rest

def indentedMembers (level : Nat) : List (String × Json) → List String
  | [] => []
  | (k, j) :: rest => (quote k ++ ": " ++ indented level j) :: indentedMembers level rest

end

def pretty (j : Json) : String := indented 0 j

end ScalingTrials.Json
