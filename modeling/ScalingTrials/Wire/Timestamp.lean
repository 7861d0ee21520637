import ScalingTrials.Binary64.Literal

/-!
Time stamps: a date, a time of day and an offset from universal time. They are written in universal
time to the second.
-/

namespace ScalingTrials.Wire.Timestamp

open Binary64 (isDigit numeral)

/-- What can be wrong with the text of a time stamp. -/
inductive Flaw where
  | misplaced
  | short
  | outOfRange
  | long
  deriving DecidableEq, Repr

def Flaw.message : Flaw → String
  | misplaced => "input contains invalid characters"
  | short => "premature end of input"
  | outOfRange => "input is out of range"
  | long => "trailing input"

/-- The number of exactly so many digits, and what follows them. -/
def digits (count : Nat) (cs : List Char) : Except Flaw (Nat × List Char) :=
  let ds := cs.take count
  if !ds.all isDigit then .error .misplaced
  else if ds.length < count then .error .short
  else .ok (numeral ds, cs.drop count)

/-- What follows a character that has to come first. -/
def after (p : Char → Bool) : List Char → Except Flaw (List Char)
  | [] => .error .short
  | c :: rest => if p c then .ok rest else .error .misplaced

/-- What follows a fraction of a second, if there is one. -/
def afterFraction : List Char → Except Flaw (List Char)
  | '.' :: rest =>
    if rest.takeWhile isDigit = [] then .error (if rest = [] then .short else .misplaced)
    else .ok (rest.dropWhile isDigit)
  | rest => .ok rest

/-- An offset from universal time in minutes, and what follows it. -/
def offset : List Char → Except Flaw (Int × List Char)
  | [] => .error .short
  | c :: rest =>
    if c = 'Z' ∨ c = 'z' then .ok (0, rest)
    else if c = '+' ∨ c = '-' then do
      let (hours, rest) ← digits 2 rest
      let rest := match rest with
        | ':' :: rest => rest
        | rest => rest
      let (minutes, rest) ← digits 2 rest
      if minutes > 59 ∨ hours > 23 then .error .outOfRange
      else
        let n : Int := hours * 60 + minutes
        .ok (if c = '-' then -n else n, rest)
    else .error .misplaced

def isLeap (year : Int) : Bool := year % 4 == 0 && (year % 100 != 0 || year % 400 == 0)

def monthLength (year : Int) (month : Nat) : Nat :=
  if month = 2 then (if isLeap year then 29 else 28)
  else if [4, 6, 9, 11].contains month then 30 else 31

/-- The day of a date, counted from the first of March of the year zero. -/
def dayNumber (year : Int) (month day : Nat) : Int :=
  let y := if month ≤ 2 then year - 1 else year
  let m : Int := ((month + 9) % 12 : Nat)
  365 * y + y.fdiv 4 - y.fdiv 100 + y.fdiv 400 + (153 * m + 2) / 5 + day - 1

/-- The date of a day so counted. -/
def dateOf (n : Int) : Int × Nat × Nat :=
  let era := n.fdiv 146097
  let d := n - era * 146097
  let y := (d - d / 1460 + d / 36524 - d / 146096) / 365
  let r := d - (365 * y + y / 4 - y / 100)
  let m := (5 * r + 2) / 153
  let day := r - (153 * m + 2) / 5 + 1
  let month := if m < 10 then m + 3 else m - 9
  (era * 400 + y + (if month ≤ 2 then 1 else 0), month.toNat, day.toNat)

def padded (width n : Nat) : String :=
  let ds := (toString n).toList
  String.ofList (List.replicate (width - ds.length) '0' ++ ds)

/-- A day and a second of that day in universal time as text. -/
def write (day : Int) (second : Nat) : String :=
  let (year, month, dayOfMonth) := dateOf day
  padded 4 year.toNat ++ "-" ++ padded 2 month ++ "-" ++ padded 2 dayOfMonth ++ "T" ++
    padded 2 (second / 3600) ++ ":" ++ padded 2 (second / 60 % 60) ++ ":" ++
    padded 2 (second % 60) ++ "Z"

/-- The same time in universal time, without the fraction of the second. -/
def normalize (text : String) : Except Flaw String := do
  let (year, rest) ← digits 4 text.toList
  let rest ← after (· == '-') rest
  let (month, rest) ← digits 2 rest
  let rest ← after (· == '-') rest
  let (day, rest) ← digits 2 rest
  let rest ← after (fun c => c == 'T' || c == ' ') rest
  let (hour, rest) ← digits 2 rest
  let rest ← after (· == ':') rest
  let (minute, rest) ← digits 2 rest
  let rest ← after (· == ':') rest
  let (second, rest) ← digits 2 rest
  let rest ← afterFraction rest
  let (off, rest) ← offset rest
  if month = 0 ∨ month > 12 ∨ day = 0 ∨ day > monthLength year month ∨ hour > 23 ∨ minute > 59 ∨
      second > 59 then
    .error .outOfRange
  else if rest ≠ [] then .error .long
  else
    let clock := hour * 3600 + minute * 60 + second
    let total : Int := dayNumber year month day * 86400 + clock - off * 60
    .ok (write (total.fdiv 86400) (total.emod 86400).toNat)

end ScalingTrials.Wire.Timestamp
