/-!
Finite numbers of the binary64 format as a sign, a significand and a power of two, and the rounding
of exact fractions and decimals to the nearest of them, a tie going to the even significand.
-/

namespace ScalingTrials

/-- The number `±significand · 2 ^ exponent`. -/
structure Binary64 where
  negative : Bool
  significand : Nat
  exponent : Int
  deriving DecidableEq, Repr

namespace Binary64

/-- The exponent of the numbers next to zero. -/
def leastExponent : Int := -1074

/-- The exponent of the largest numbers. -/
def greatestExponent : Int := 971

def zero (negative : Bool) : Binary64 := ⟨negative, 0, leastExponent⟩

def isZero (x : Binary64) : Bool := x.significand == 0

/-- The whole number nearest to a fraction, the even one of two. -/
def nearest (num den : Nat) : Nat :=
  let low := num / den
  let rest := num % den
  if 2 * rest < den then low
  else if den < 2 * rest then low + 1
  else low + low % 2

/-- The numerator and denominator of a fraction divided by a power of two. -/
def unscale (num den : Nat) (exponent : Int) : Nat × Nat :=
  if 0 ≤ exponent then (num, den * Nat.pow 2 exponent.toNat)
  else (num * Nat.pow 2 (-exponent).toNat, den)

/-- The exponent whose significand has 53 bits, or the least exponent. -/
def exponentOf (num den : Nat) : Int :=
  let guess : Int := (num.log2 : Int) - den.log2 - 52
  let (n, d) := unscale num den guess
  max leastExponent (if n / d < Nat.pow 2 52 then guess - 1 else guess)

/-- The number nearest to a fraction, unless that lies beyond the largest. -/
def round? (negative : Bool) (num den : Nat) : Option Binary64 :=
  let exponent := exponentOf num den
  let (n, d) := unscale num den exponent
  let significand := nearest n d
  let rounded : Binary64 :=
    if significand = Nat.pow 2 53 then ⟨negative, Nat.pow 2 52, exponent + 1⟩
    else ⟨negative, significand, exponent⟩
  if rounded.exponent ≤ greatestExponent then some rounded else none

/-- The number nearest to `digits · 10 ^ power`, unless that lies beyond the largest. Decimals far
outside the range of the format are settled by their size alone. -/
def ofDecimal? (negative : Bool) (digits : Nat) (power : Int) : Option Binary64 :=
  let size : Int := (Nat.toDigits 10 digits).length + power
  if digits = 0 ∨ size < -330 then some (zero negative)
  else if 310 < size then none
  else if 0 ≤ power then round? negative (digits * Nat.pow 10 power.toNat) 1
  else round? negative digits (Nat.pow 10 (-power).toNat)

/-- The numerator and denominator of the magnitude. -/
def fraction (x : Binary64) : Nat × Nat := unscale x.significand 1 (-x.exponent)

end Binary64

end ScalingTrials
