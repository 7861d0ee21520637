import ScalingTrials.Binary64.Literal
import ScalingTrials.Binary64.Shortest
import ScalingTrials.Text.Quoted
import ScalingTrials.Word
import ScalingTrials.Yaml.Node

/-!
What the text of a scalar stands for: nothing, a truth value, a number or the text itself. A plain
scalar is resolved by its look, and one with a standard tag by the tag.
-/

namespace ScalingTrials.Yaml

/-- A number with a point, or one of the values that no digits write. -/
inductive Real where
  | finite (x : Binary64)
  | infinite (negative : Bool)
  | nan
  deriving DecidableEq, Repr

/-- `wide` is a whole number beyond 64 bits. -/
inductive Scalar where
  | null
  | bool (b : Bool)
  | int (n : Int)
  | wide (n : Int)
  | real (x : Real)
  | str (s : String)
  deriving DecidableEq, Repr

namespace Scalar

/-- The value of a digit in a base of at most sixteen. -/
def digit? (base : Nat) (c : Char) : Option Nat :=
  (hexValue? c).bind fun n => if n < base then some n else none

/-- The number that one or more digits write in a base. -/
def digits? (base : Nat) (cs : List Char) : Option Nat :=
  if cs = [] then none
  else cs.foldl (fun n? c => n?.bind fun n => (digit? base c).map fun d => base * n + d) (some 0)

/-- Digits behind an optional plus sign. -/
def unsigned? (base : Nat) : List Char → Option Nat
  | '+' :: rest => digits? base rest
  | cs => digits? base cs

/-- The base that a mark behind the first zero of a number announces. -/
def markedBase? (c : Char) : Option Nat :=
  if c = 'x' then some 16 else if c = 'o' then some 8 else if c = 'b' then some 2 else none

/-- A whole number of 64 bits in a base that its text announces. -/
def ofBase? : List Char → Option Int
  | '-' :: '0' :: mark :: rest =>
    (markedBase? mark).bind fun base => (digits? base rest).bind fun n =>
      if n ≤ signedSize then some (-(n : Int)) else none
  | '+' :: '0' :: mark :: rest =>
    (markedBase? mark).bind fun base => (unsigned? base rest).bind fun n =>
      if n < wordSize then some (n : Int) else none
  | '0' :: mark :: rest =>
    (markedBase? mark).bind fun base => (unsigned? base rest).bind fun n =>
      if n < wordSize then some (n : Int) else none
  | _ => none

/-- Whether digits follow a zero, behind any number of signs: such a text is no number. -/
def hasLeadingZero (cs : List Char) : Bool :=
  match cs.dropWhile fun c => c == '+' || c == '-' with
  | '0' :: d :: rest => (d :: rest).all isDigit
  | _ => false

/-- A decimal whole number, unless its magnitude is beyond 128 bits. -/
def ofDecimal? : List Char → Option Scalar
  | '-' :: rest => (digits? 10 rest).bind fun n =>
    if n ≤ signedSize then some (int (-(n : Int)))
    else if n ≤ signedDoubleSize then some (wide (-(n : Int))) else none
  | cs => (unsigned? 10 cs).bind fun n =>
    if n < wordSize then some (int n) else if n < doubleWordSize then some (wide n) else none

/-- The values that no digits write, in the three spellings of each. -/
def ofName? (cs : List Char) : Option Real :=
  let name := String.ofList (cs.dropWhile (· == '+'))
  let whole := String.ofList cs
  if name = ".inf" ∨ name = ".Inf" ∨ name = ".INF" then some (.infinite false)
  else if whole = "-.inf" ∨ whole = "-.Inf" ∨ whole = "-.INF" then some (.infinite true)
  else if whole = ".nan" ∨ whole = ".NaN" ∨ whole = ".NAN" then some .nan
  else none

/-- What a plain scalar stands for. -/
def ofPlain (s : String) : Scalar :=
  let cs := s.toList
  if s = "" ∨ s = "~" ∨ s = "null" then null
  else if s = "true" then bool true
  else if s = "false" then bool false
  else
    match ofBase? cs with
    | some n => int n
    | none =>
      if hasLeadingZero cs then str s
      else
        match ofDecimal? cs with
        | some n => n
        | none =>
          match ofName? cs with
          | some x => real x
          | none =>
            match Binary64.ofLiteral? cs with
            | some x => real (.finite x)
            | none => str s

/-- A decimal whole number that fits 64 bits with a sign. -/
def ofInteger? (cs : List Char) : Option Scalar :=
  match ofDecimal? cs with
  | some (int n) => if n < (signedSize : Int) then some (int n) else none
  | _ => none

/-- A literal with or without a point, a name or a value beyond the range included. -/
def ofFloat? (cs : List Char) : Option Scalar :=
  let (negative, body) := Binary64.splitSign cs
  if (Binary64.decimal? cs).isSome then
    some (real (match Binary64.ofLiteral? cs with
      | some x => .finite x
      | none => .infinite negative))
  else if Binary64.isNamed cs then
    some (real (if body.map Char.toLower = ['n', 'a', 'n'] then .nan else .infinite negative))
  else none

/-- What a scalar stands for under a standard tag, or what was expected of its text. -/
def ofTag (suffix s : String) : Except String Scalar :=
  if suffix = "bool" then
    if s = "true" then .ok (bool true)
    else if s = "false" then .ok (bool false)
    else .error "a boolean"
  else if suffix = "int" then
    match ofInteger? s.toList with
    | some n => .ok n
    | none => .error "an integer"
  else if suffix = "float" then
    match ofFloat? s.toList with
    | some x => .ok x
    | none => .error "a float"
  else if suffix = "null" then
    if s = "~" ∨ s = "null" then .ok null else .error "null"
  else .ok (str s)

/-- What a scalar stands for, or the message that its text does not suit its tag. -/
def resolve (tag : Option (String × String)) (plain : Bool) (s : String) : Except String Scalar :=
  match tag with
  | some (handle, suffix) =>
    if handle = "!!" then
      match ofTag suffix s with
      | .ok v => .ok v
      | .error expected =>
        .error ("invalid value: string " ++ Text.quote s ++ ", expected " ++ expected)
    else .ok (str s)
  | none => .ok (if plain then ofPlain s else str s)

/-- What a message calls a number. -/
def describeReal : Real → String
  | .finite x => "floating point `" ++ x.render Binary64.messageLayout ++ "`"
  | .infinite negative => "floating point `" ++ (if negative then "-inf" else "inf") ++ "`"
  | .nan => "floating point `NaN`"

/-- What a message calls a scalar. -/
def describe : Scalar → String
  | null => "unit value"
  | bool true => "boolean `true`"
  | bool false => "boolean `false`"
  | int n => "integer `" ++ toString n ++ "`"
  | wide n => "integer `" ++ toString n ++ "` as " ++ (if n < 0 then "i128" else "u128")
  | real x => describeReal x
  | str s => "string " ++ Text.quote s

end Scalar

end ScalingTrials.Yaml
