import ScalingTrials.Binary64

/-!
The shortest decimal that reads back to a binary64 number, and its layout as text.
-/

namespace ScalingTrials.Binary64

/-- Decimal digits with a point in front of the first of them shifted right by `point` places. -/
structure Digits where
  digits : Nat
  point : Int
  deriving DecidableEq, Repr

/-- The decimals that read back to a number lie around its magnitude `num / den`, from `low / den`
to `high / den`; the ends themselves read back exactly when the significand is even. -/
structure Neighbourhood where
  low : Nat
  num : Nat
  high : Nat
  den : Nat
  closed : Bool

/-- The distance to the next smaller number halves below a power of two. -/
def neighbourhood (x : Binary64) : Neighbourhood :=
  let (num, den) := unscale (4 * x.significand) 4 (-x.exponent)
  let (unit, _) := unscale 1 4 (-x.exponent)
  let below := if x.significand = Nat.pow 2 52 ∧ leastExponent < x.exponent then unit else 2 * unit
  ⟨num - below, num, num + 2 * unit, den, x.significand % 2 == 0⟩

/-- Whether `digits · up / down` lies in the neighbourhood. -/
def Neighbourhood.contains (n : Neighbourhood) (up down digits : Nat) : Bool :=
  let value := digits * up * n.den
  let low := n.low * down
  let high := n.high * down
  if n.closed then low ≤ value && value ≤ high else low < value && value < high

/-- The decimal of `count` digits nearest to the magnitude among those that read back, where the
magnitude is below `10 ^ size` and not below a tenth of that. Of two at the same distance it is the
even one. -/
def Neighbourhood.ofCount? (n : Neighbourhood) (size : Int) (count : Nat) : Option Nat :=
  let shift : Int := size - count
  let up := if 0 ≤ shift then Nat.pow 10 shift.toNat else 1
  let down := if 0 ≤ shift then 1 else Nat.pow 10 (-shift).toNat
  let low := n.num * down / (n.den * up)
  let twice := 2 * (n.num * down)
  let middle := (2 * low + 1) * (n.den * up)
  match n.contains up down low, n.contains up down (low + 1) with
  | true, true =>
    if twice < middle then some low
    else if middle < twice then some (low + 1)
    else some (low + low % 2)
  | true, false => some low
  | false, true => some (low + 1)
  | false, false => none

/-- The first count of digits from `count` on, of at most `tries`, that has a decimal. -/
def Neighbourhood.search (n : Neighbourhood) (size : Int) (count : Nat) : Nat → Nat × Nat
  | 0 => (0, count)
  | tries + 1 =>
    match n.ofCount? size count with
    | some digits => (digits, count)
    | none => n.search size (count + 1) tries

/-- The number of digits of a magnitude before its point, negative for zeros after the point. -/
def sizeOf (num den : Nat) : Int :=
  ((Nat.toDigits 10 (num * Nat.pow 10 400 / den)).length : Int) - 400

/-- The shortest decimal that reads back; seventeen digits always do. -/
def shortest (x : Binary64) : Digits :=
  if x.isZero then ⟨0, 1⟩
  else
    let n := x.neighbourhood
    let size := sizeOf n.num n.den
    let (digits, count) := n.search size 1 17
    ⟨digits, size + ((Nat.toDigits 10 digits).length - count)⟩

/-- How a decimal is laid out: between two decimal exponents with a point and at least one digit
after it, elsewhere with an exponent that carries its sign. -/
structure Layout where
  least : Int
  greatest : Int

def zeros (n : Int) : List Char := List.replicate n.toNat '0'

/-- Digits with a point after the first `point` of them, and a digit on either side. -/
def positional (cs : List Char) (point : Int) : List Char :=
  if point ≤ 0 then '0' :: '.' :: zeros (-point) ++ cs
  else if (cs.length : Int) ≤ point then cs ++ zeros (point - cs.length) ++ ['.', '0']
  else cs.take point.toNat ++ '.' :: cs.drop point.toNat

/-- Digits with a point after the first, and the exponent. -/
def scientific (cs : List Char) (exponent : Int) : List Char :=
  let mark := if exponent < 0 then ['e', '-'] else ['e', '+']
  let tail := mark ++ Nat.toDigits 10 exponent.natAbs
  match cs with
  | [] => tail
  | [c] => c :: tail
  | c :: rest => c :: '.' :: rest ++ tail

/-- Digits without zeros at the end, except that zero itself keeps one. -/
def stripZeros (cs : List Char) : List Char :=
  match (cs.reverse.dropWhile (· == '0')).reverse with
  | [] => ['0']
  | cs => cs

def render (layout : Layout) (x : Binary64) : String :=
  let d := x.shortest
  let cs := stripZeros (Nat.toDigits 10 d.digits)
  let exponent := d.point - 1
  let body :=
    if layout.least ≤ exponent ∧ exponent ≤ layout.greatest then positional cs d.point
    else scientific cs exponent
  String.ofList (if x.negative then '-' :: body else body)

/-- Documents hold numbers in this layout: positional from `0.00001` to below `10 ^ 16`. -/
def documentLayout : Layout := ⟨-5, 15⟩

/-- Messages show every number in positional notation. -/
def messageLayout : Layout := ⟨leastExponent, -leastExponent⟩

end ScalingTrials.Binary64
