import ScalingTrials.Binary64.Literal
import ScalingTrials.Json
import ScalingTrials.Word

/-!
Structured values read from text. Whole numbers of 64 bits stay whole and others become binary64
numbers; of two members with one key the later wins; nesting is bounded.
-/

namespace ScalingTrials.Json

/-- A text may nest less deeply than this. -/
def depthLimit : Nat := 128

def isSpace (c : Char) : Bool := c == ' ' || c == '\n' || c == '\r' || c == '\t'

def skipSpaces (cs : List Char) : List Char := cs.dropWhile isSpace

def hexValue? (c : Char) : Option Nat :=
  if '0' ≤ c ∧ c ≤ '9' then some (c.toNat - 48)
  else if 'a' ≤ c ∧ c ≤ 'f' then some (c.toNat - 87)
  else if 'A' ≤ c ∧ c ≤ 'F' then some (c.toNat - 55)
  else none

/-- The number that four hexadecimal digits write, and what follows them. -/
def fourHex? : List Char → Option (Nat × List Char)
  | a :: b :: c :: d :: rest => do
    let a ← hexValue? a
    let b ← hexValue? b
    let c ← hexValue? c
    let d ← hexValue? d
    some (((a * 16 + b) * 16 + c) * 16 + d, rest)
  | _ => none

/-- The character of an escape by number, of which one beyond the first plane takes two. -/
def unicodeEscape? (cs : List Char) : Option (Char × List Char) := do
  let (high, rest) ← fourHex? cs
  if 0xD800 ≤ high ∧ high < 0xDC00 then
    match rest with
    | '\\' :: 'u' :: rest =>
      let (low, rest) ← fourHex? rest
      if 0xDC00 ≤ low ∧ low < 0xE000 then
        some (Char.ofNat (0x10000 + (high - 0xD800) * 0x400 + (low - 0xDC00)), rest)
      else none
    | _ => none
  else if 0xDC00 ≤ high ∧ high < 0xE000 then none
  else some (Char.ofNat high, rest)

/-- The character that an escape letter stands for. -/
def simpleEscape? (c : Char) : Option Char :=
  if c = '"' ∨ c = '\\' ∨ c = '/' then some c
  else if c = 'b' then some '\x08'
  else if c = 'f' then some '\x0c'
  else if c = 'n' then some '\n'
  else if c = 'r' then some '\r'
  else if c = 't' then some '\t'
  else none

/-- The rest of a string behind its opening quote, newest character first, and what follows it. -/
def readString : Nat → List Char → List Char → Option (String × List Char)
  | 0, _, _ => none
  | _ + 1, _, [] => none
  | fuel + 1, acc, c :: rest =>
    if c = '"' then some (String.ofList acc.reverse, rest)
    else if c = '\\' then
      match rest with
      | 'u' :: rest => do
        let (c, rest) ← unicodeEscape? rest
        readString fuel (c :: acc) rest
      | e :: rest => do
        let c ← simpleEscape? e
        readString fuel (c :: acc) rest
      | [] => none
    else if c.toNat < 32 then none
    else readString fuel (c :: acc) rest

/-- A whole number that fits 64 bits with or without a sign. -/
def wholeNumber? (negative : Bool) (n : Nat) : Option Json :=
  if negative then
    if n ≠ 0 ∧ n ≤ signedSize then some (.int (-(n : Int))) else none
  else if n < wordSize then some (.int n) else none

/-- The digits of an exponent with its sign, and what follows them. -/
def readExponent? (cs : List Char) : Option (Int × List Char) :=
  let (negative, cs) := Binary64.splitSign cs
  let digits := cs.takeWhile Binary64.isDigit
  if digits = [] then none
  else
    let e := Binary64.numeral digits
    some (if negative then -(e : Int) else e, cs.dropWhile Binary64.isDigit)

/-- A number and what follows it. -/
def readNumber? (cs : List Char) : Option (Json × List Char) := do
  let (negative, cs) := match cs with
    | '-' :: rest => (true, rest)
    | cs => (false, cs)
  let whole := cs.takeWhile Binary64.isDigit
  let rest := cs.dropWhile Binary64.isDigit
  if whole = [] ∨ (whole.head? = some '0' ∧ whole ≠ ['0']) then none
  let (part, rest) ← match rest with
    | '.' :: rest =>
      let digits := rest.takeWhile Binary64.isDigit
      if digits = [] then none else some (some digits, rest.dropWhile Binary64.isDigit)
    | rest => some (none, rest)
  let (exponent, rest) ← match rest with
    | c :: tail =>
      if c = 'e' ∨ c = 'E' then (readExponent? tail).map fun (e, r) => (some e, r)
      else some (none, rest)
    | [] => some (none, [])
  let whole? := if part.isNone ∧ exponent.isNone then
    wholeNumber? negative (Binary64.numeral whole) else none
  match whole? with
  | some j => some (j, rest)
  | none =>
    let digits := part.getD []
    let x ← Binary64.ofDecimal? negative (Binary64.numeral (whole ++ digits))
      (exponent.getD 0 - digits.length)
    some (.float x, rest)

/-- The text after a word that it starts with. -/
def afterWord? : List Char → List Char → Option (List Char)
  | [], cs => some cs
  | w :: ws, c :: cs => if w = c then afterWord? ws cs else none
  | _ :: _, [] => none

mutual

/-- A value behind white space, and what follows it. -/
def readValue : Nat → Nat → List Char → Option (Json × List Char)
  | 0, _, _ => none
  | fuel + 1, depth, cs =>
    match skipSpaces cs with
    | 'n' :: rest => (afterWord? ['u', 'l', 'l'] rest).map (null, ·)
    | 't' :: rest => (afterWord? ['r', 'u', 'e'] rest).map (bool true, ·)
    | 'f' :: rest => (afterWord? ['a', 'l', 's', 'e'] rest).map (bool false, ·)
    | '"' :: rest => (readString (rest.length + 1) [] rest).map fun (s, rest) => (str s, rest)
    | '[' :: rest =>
      if depth ≤ 1 then none
      else match skipSpaces rest with
        | ']' :: rest => some (arr [], rest)
        | rest => (readItems fuel (depth - 1) rest).map fun (items, rest) => (arr items, rest)
    | '\x7b' :: rest =>
      if depth ≤ 1 then none
      else match skipSpaces rest with
        | '\x7d' :: rest => some (obj [], rest)
        | rest => (readMembers fuel (depth - 1) [] rest).map fun (ms, rest) => (obj ms, rest)
    | cs => readNumber? cs

/-- One or more items up to the closing bracket. -/
def readItems : Nat → Nat → List Char → Option (List Json × List Char)
  | 0, _, _ => none
  | fuel + 1, depth, cs => do
    let (item, rest) ← readValue fuel depth cs
    match skipSpaces rest with
    | ',' :: rest =>
      let (items, rest) ← readItems fuel depth rest
      some (item :: items, rest)
    | ']' :: rest => some ([item], rest)
    | _ => none

/-- One or more members up to the closing brace, set on top of the earlier ones. -/
def readMembers : Nat → Nat → List (String × Json) → List Char →
    Option (List (String × Json) × List Char)
  | 0, _, _, _ => none
  | fuel + 1, depth, acc, cs =>
    match skipSpaces cs with
    | '"' :: rest => do
      let (k, rest) ← readString (rest.length + 1) [] rest
      match skipSpaces rest with
      | ':' :: rest =>
        let (v, rest) ← readValue fuel depth rest
        let acc := setMember k v acc
        match skipSpaces rest with
        | ',' :: rest => readMembers fuel depth acc rest
        | '\x7d' :: rest => some (acc, rest)
        | _ => none
      | _ => none
    | _ => none

end

/-- The value that a whole text writes, if it writes one that nests less deeply than a limit. -/
def parseWithin? (limit : Nat) (text : String) : Option Json :=
  let cs := text.toList
  match readValue (2 * cs.length + 2) limit cs with
  | some (j, rest) => if skipSpaces rest = [] then some j else none
  | none => none

/-- The value that a whole text writes, if it writes one. -/
def parse? (text : String) : Option Json := parseWithin? depthLimit text

end ScalingTrials.Json
