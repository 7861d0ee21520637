/-!
Names that are unlikely to be taken: a fixed beginning, and random digits up to the wanted length.
-/

namespace ScalingTrials.Naming

/-- One draw of randomness. -/
abbrev Draw := BitVec 128

/-- The hexadecimal digits in lower case. -/
def hexDigit (n : Nat) : Char := if n < 10 then Char.ofNat (48 + n) else Char.ofNat (87 + n)

/-- The digits of a draw, always as many. -/
def digits (d : Draw) : List Char :=
  (List.range 32).map fun i => hexDigit (d.toNat / Nat.pow 16 (31 - i) % 16)

@[simp] theorem length_digits (d : Draw) : (digits d).length = 32 := by simp [digits]

/-- As many digits of successive draws as there is room for, and the number of the next draw. -/
def fill (draws : Nat → Draw) (next room : Nat) : List Char × Nat :=
  if room = 0 then ([], next)
  else
    let (more, after) := fill draws (next + 1) (room - 32)
    ((digits (draws next)).take room ++ more, after)
  termination_by room

/-- The part of a name that is not random: the beginning and a dash, as far as they fit. -/
def fixedPart (beginning : String) (limit : Nat) : List Char :=
  (beginning.toList ++ ['-']).take limit

/-- A name of exactly the wanted number of characters, and the number of draws that it took. -/
def generate (draws : Nat → Draw) (beginning : String) (limit : Nat) : String × Nat :=
  let fixed := fixedPart beginning limit
  let (random, drawn) := fill draws 0 (limit - fixed.length)
  (String.ofList (fixed ++ random), drawn)

end ScalingTrials.Naming
