/-!
How many values fit words of fixed width.
-/

namespace ScalingTrials

/-- The number of values of 32 bits. -/
abbrev halfWordSize : Nat := 0x100000000

/-- The number of values of 64 bits. -/
abbrev wordSize : Nat := 0x10000000000000000

/-- The number of values of 64 bits that are not negative, if one bit is the sign. -/
abbrev signedSize : Nat := 0x8000000000000000

/-- The number of values of 128 bits. -/
abbrev doubleWordSize : Nat := 0x100000000000000000000000000000000

/-- The number of values of 128 bits that are not negative, if one bit is the sign. -/
abbrev signedDoubleSize : Nat := 0x80000000000000000000000000000000

end ScalingTrials
