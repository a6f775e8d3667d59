import Keywordless.Text.Bytes

/-!
# Times as text

Moments are microseconds since the start of 1970 in universal time, durations are nanoseconds.
-/

namespace Keywordless

namespace Clock

structure Day where
  year : Int
  month : Nat
  day : Nat

def daysIn (year month : Nat) : Nat :=
  if month = 2 then if year % 4 = 0 && (year % 100 != 0 || year % 400 = 0) then 29 else 28
  else if [4, 6, 9, 11].contains month then 30 else 31

/-- The day that is a number of days after the first of January 1970. Years are counted from March
in cycles of 400 years. -/
def dayOf (days : Int) : Day :=
  let z := days + 719468
  let era := z.fdiv 146097
  let dayOfEra := (z - era * 146097).toNat
  let yearOfEra := (dayOfEra - dayOfEra / 1460 + dayOfEra / 36524 - dayOfEra / 146096) / 365
  let dayOfYear := dayOfEra - (365 * yearOfEra + yearOfEra / 4 - yearOfEra / 100)
  let shifted := (5 * dayOfYear + 2) / 153
  let month := if shifted < 10 then shifted + 3 else shifted - 9
  { year := yearOfEra + era * 400 + if month ≤ 2 then 1 else 0
    month
    day := dayOfYear - (153 * shifted + 2) / 5 + 1 }

private def yearText (year : Int) : Bytes :=
  (if year < 0 then [0x2D] else []) ++ Bytes.ofNatPadded 4 year.natAbs

def stamp (micros : Int) : Bytes :=
  let daily : Int := 86400000000
  let date := dayOf (micros.fdiv daily)
  let rest := (micros - micros.fdiv daily * daily).toNat
  let seconds := rest / 1000000
  yearText date.year ++ "-" ++ Bytes.ofNatPadded 2 date.month ++ "-" ++
    Bytes.ofNatPadded 2 date.day ++
    "T" ++ Bytes.ofNatPadded 2 (seconds / 3600) ++ ":" ++ Bytes.ofNatPadded 2 (seconds / 60 % 60) ++
    ":" ++ Bytes.ofNatPadded 2 (seconds % 60) ++ "." ++ Bytes.ofNatPadded 6 (rest % 1000000) ++ "Z"

private def decimal (places n : Nat) : Bytes :=
  let fraction := Bytes.ofNatPadded places (n % Nat.pow 10 places)
  let kept := (fraction.reverse.dropWhile (· == 0x30)).reverse
  Bytes.ofNat (n / Nat.pow 10 places) ++ if places = 0 || kept.isEmpty then [] else 0x2E :: kept

private def magnitude (n : Nat) : Bytes :=
  if n = 0 then "0s"
  else if n < 1000 then Bytes.ofNat n ++ "ns"
  else if n < 1000000 then decimal 3 n ++ "µs"
  else if n < 1000000000 then decimal 6 n ++ "ms"
  else
    let minutes := n / 60000000000
    (if minutes ≥ 60 then Bytes.ofNat (minutes / 60) ++ "h" else []) ++
      (if minutes > 0 then Bytes.ofNat (minutes % 60) ++ "m" else []) ++
      decimal 9 (n % 60000000000) ++ "s"

def duration (nanos : Int) : Bytes :=
  if nanos < 0 then "-" ++ magnitude nanos.natAbs else magnitude nanos.natAbs

/-- A duration in milliseconds with so many decimals, at most six; a half goes to the even
neighbour. -/
def milliseconds (places nanos : Nat) : Bytes :=
  let unit := Nat.pow 10 (6 - places)
  let (q, r) := (nanos / unit, nanos % unit)
  let rounded := if 2 * r > unit || (2 * r = unit && q % 2 = 1) then q + 1 else q
  Bytes.ofNat (rounded / Nat.pow 10 places) ++ "." ++
    Bytes.ofNatPadded places (rounded % Nat.pow 10 places)

end Clock

end Keywordless
