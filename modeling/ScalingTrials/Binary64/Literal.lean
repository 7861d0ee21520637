import ScalingTrials.Binary64

/-!
Decimal literals: an optional sign, digits with an optional point among, before or after them, and
an optional exponent.
-/

namespace ScalingTrials.Binary64

def isDigit (c : Char) : Bool := '0' ≤ c && c ≤ '9'

def digitValue (c : Char) : Nat := c.toNat - '0'.toNat

/-- The number that decimal digits write. -/
def numeral (cs : List Char) : Nat := cs.foldl (fun n c => 10 * n + digitValue c) 0

/-- The sign in front of a text, and the rest. -/
def splitSign : List Char → Bool × List Char
  | '-' :: rest => (true, rest)
  | '+' :: rest => (false, rest)
  | rest => (false, rest)

/-- The exponent that ends a literal: nothing, or the letter with an optional sign and digits. -/
def exponent? : List Char → Option Int
  | [] => some 0
  | c :: rest =>
    if c = 'e' ∨ c = 'E' then
      let (negative, digits) := splitSign rest
      if digits ≠ [] ∧ digits.all isDigit then
        some (if negative then -(numeral digits : Int) else numeral digits)
      else none
    else none

/-- What a decimal literal writes: the sign, the digits as a whole number, and a power of ten. -/
def decimal? (cs : List Char) : Option (Bool × Nat × Int) :=
  let (negative, body) := splitSign cs
  let whole := body.takeWhile isDigit
  let afterWhole := body.dropWhile isDigit
  let (part, rest) := match afterWhole with
    | '.' :: r => (r.takeWhile isDigit, r.dropWhile isDigit)
    | r => ([], r)
  if whole = [] ∧ part = [] then none
  else (exponent? rest).map fun e => (negative, numeral (whole ++ part), e - part.length)

/-- The names of the values that no digits write, in any case and with an optional sign. -/
def isNamed (cs : List Char) : Bool :=
  let name := (splitSign cs).2.map Char.toLower
  name == ['i', 'n', 'f'] || name == ['i', 'n', 'f', 'i', 'n', 'i', 't', 'y'] ||
    name == ['n', 'a', 'n']

/-- Whether the text is a literal of the format, a name included. -/
def isLiteral (cs : List Char) : Bool := (decimal? cs).isSome || isNamed cs

/-- The number nearest to a decimal literal, if it is one and its value is within the range. -/
def ofLiteral? (cs : List Char) : Option Binary64 :=
  (decimal? cs).bind fun (negative, digits, power) => ofDecimal? negative digits power

end ScalingTrials.Binary64
