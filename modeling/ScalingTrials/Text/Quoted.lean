import ScalingTrials.Text.Unprinted

/-!
Text between double quotes, the way messages show a value: quotes, backslashes and everything that
would not be seen on paper are escaped. Lists and maps of such texts are built on it.
-/

namespace ScalingTrials.Text

/-- The digits of a number in base sixteen, in lower case and without padding. -/
def hexDigits (n : Nat) : List Char := Nat.toDigits 16 n

def escape (c : Char) : List Char :=
  if c = '"' then ['\\', '"']
  else if c = '\\' then ['\\', '\\']
  else if c = '\n' then ['\\', 'n']
  else if c = '\r' then ['\\', 'r']
  else if c = '\t' then ['\\', 't']
  else if c = '\x00' then ['\\', '0']
  else if unprinted c then '\\' :: 'u' :: '\x7b' :: hexDigits c.toNat ++ ['\x7d']
  else [c]

def quote (s : String) : String :=
  String.ofList ('"' :: s.toList.flatMap escape ++ ['"'])

/-- A list of texts between brackets. -/
def quoteList (items : List String) : String :=
  "[" ++ ", ".intercalate (items.map quote) ++ "]"

/-- A list of pairs between braces. -/
def quotePairs (pairs : List (String × String)) : String :=
  "\x7b" ++ ", ".intercalate (pairs.map fun (k, v) => quote k ++ ": " ++ quote v) ++ "\x7d"

end ScalingTrials.Text
