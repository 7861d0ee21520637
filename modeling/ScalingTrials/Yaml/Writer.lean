import ScalingTrials.Binary64.Literal
import ScalingTrials.Text.Quoted

/-!
Texts as scalars. A text stands plain unless its look would make a reader take it for something
else, and between double quotes otherwise.
-/

namespace ScalingTrials.Yaml

/-- Characters that begin something other than a plain scalar. -/
def opensOther (c : Char) : Bool :=
  c == '&' || c == '*' || c == '?' || c == '|' || c == '-' || c == '<' || c == '>' || c == '=' ||
    c == '!' || c == '%' || c == '@' || c == '.' || c == ' '

/-- Characters that do not stand in a plain scalar. -/
def breaksPlain (c : Char) : Bool :=
  c == ':' || c == '{' || c == '}' || c == '[' || c == ']' || c == ',' || c == '#' ||
    c.toNat == 96 || c == '"' || c == '\'' || c == '\\' || c == '\t' || c == '\n' || c == '\r' ||
    c.toNat ≤ 6 || (14 ≤ c.toNat && c.toNat ≤ 26) || (28 ≤ c.toNat && c.toNat ≤ 31)

/-- Words that some readers take for a truth value or for nothing. -/
def reservedWords : List String :=
  ["yes", "Yes", "YES", "no", "No", "NO", "True", "TRUE", "true", "False", "FALSE", "false", "on",
    "On", "ON", "off", "Off", "OFF", "null", "Null", "NULL", "~"]

/-- Whether a text has to be quoted. -/
def needsQuotes (s : String) : Bool :=
  let cs := s.toList
  match cs with
  | [] => true
  | c :: _ =>
    opensOther c || cs.getLast? == some ' ' || ['0', 'x'].isPrefixOf cs || cs.any breaksPlain ||
      reservedWords.contains s || Binary64.isLiteral cs

def escape (c : Char) : List Char :=
  if c = '"' then ['\\', '"']
  else if c = '\\' then ['\\', '\\']
  else if c = '\x08' then ['\\', 'b']
  else if c = '\t' then ['\\', 't']
  else if c = '\n' then ['\\', 'n']
  else if c = '\x0c' then ['\\', 'f']
  else if c = '\r' then ['\\', 'r']
  else if c.toNat < 16 then '\\' :: 'u' :: '0' :: '0' :: '0' :: Text.hexDigits c.toNat
  else if c.toNat < 32 ∨ c.toNat = 127 then '\\' :: 'u' :: '0' :: '0' :: Text.hexDigits c.toNat
  else [c]

/-- A text as a scalar. -/
def scalar (s : String) : String :=
  if needsQuotes s then String.ofList ('"' :: s.toList.flatMap escape ++ ['"']) else s

end ScalingTrials.Yaml
