import Keywordless.Text.Clock
import Keywordless.Text.Decimal

/-!
# Implicit types of plain texts

A reader gives a plain text the type that its form suggests: nothing, a truth value, a number or a
moment. `Yaml.readsAsText` says which texts keep their meaning without quotes.
-/

namespace Keywordless.Yaml

private def nullAndTruthWords : List String :=
  ["", "~", "null", "Null", "NULL", "true", "True", "TRUE", "false", "False", "FALSE"]

private def specialNumbers : List String :=
  [".nan", ".NaN", ".NAN", ".inf", ".Inf", ".INF", "+.inf", "+.Inf", "+.INF", "-.inf", "-.Inf",
    "-.INF"]

private def oldTruthWords : List String :=
  ["y", "Y", "yes", "Yes", "YES", "on", "On", "ON", "n", "N", "no", "No", "NO", "off", "Off", "OFF"]

private def isOneOf (words : List String) (text : Bytes) : Bool :=
  words.any fun w => Bytes.ofString w == text

/-! ## Numbers -/

private def underscore : UInt8 := 0x5F

private def digitValue (b : UInt8) : Nat :=
  if Bytes.isDigit b then b.toNat - 0x30
  else if Bytes.isLower b then b.toNat - 0x61 + 10
  else if Bytes.isUpper b then b.toNat - 0x41 + 10
  else 36

private def valueInBase? (base : Nat) (digits : Bytes) : Option Nat :=
  if digits.isEmpty || digits.any fun b => digitValue b ≥ base then none
  else some (digits.foldl (fun n b => n * base + digitValue b) 0)

private def wordLimit (sign : Option UInt8) : Nat :=
  if sign == some 0x2D then Nat.pow 2 63 + 1
  else if sign == some 0x2B then Nat.pow 2 63
  else Nat.pow 2 64

private def signOf (text : Bytes) : Option UInt8 :=
  text.head?.filter fun b => b = 0x2B || b = 0x2D

/-- Digits in a base within 64 bits, behind the sign that counts for them. -/
private def isWord (base : Nat) (sign : Option UInt8) (digits : Bytes) : Bool :=
  (valueInBase? base digits).any (· < wordLimit sign)

private def baseOf? : UInt8 → Option Nat
  | 0x78 | 0x58 => some 16
  | 0x6F | 0x4F => some 8
  | 0x62 | 0x42 => some 2
  | _ => none

/-- A number with a base letter after a zero. After a small letter for base two or eight the sign
may also stand behind the letter. -/
private def isBasedNumber (text : Bytes) : Bool :=
  match Decimal.dropSign text with
  | 0x30 :: letter :: digits =>
    match baseOf? letter with
    | none => false
    | some base =>
      let isInnerSigned := (letter = 0x62 || letter = 0x6F) && (signOf text).isNone &&
        isWord base (signOf digits) (Decimal.dropSign digits)
      isWord base (signOf text) digits || isInnerSigned
  | _ => false

private def isFiniteDecimal (text : Bytes) : Bool := (Decimal.parse? text).any (·.fitsDouble)

/-- Every underscore stands between two digits. -/
private def underscoresFit (afterDigit : Bool) : Bytes → Bool
  | [] => true
  | b :: rest =>
    if b = underscore then afterDigit && rest.head?.any Bytes.isDigit && underscoresFit false rest
    else underscoresFit (Bytes.isDigit b) rest

/-- A number that starts with a digit or a sign may hold underscores anywhere, one that starts with
a point only between digits. -/
private def isNumber (text : Bytes) : Bool :=
  let plain := text.filter (· != underscore)
  match text with
  | 0x2E :: _ => underscoresFit false text && isFiniteDecimal plain
  | b :: _ =>
    (Bytes.isDigit b || (signOf text).isSome) &&
      (isFiniteDecimal (Decimal.dropSign plain) || isBasedNumber plain)
  | [] => false

private def isSixty (text : Bytes) : Bool :=
  match text with
  | [a] => Bytes.isDigit a
  | [a, b] => 0x30 ≤ a && a ≤ 0x35 && Bytes.isDigit b
  | _ => false

private def isDigitsOrMarks (text : Bytes) : Bool :=
  text.all fun b => Bytes.isDigit b || b = underscore

private def isSexagesimal (text : Bytes) : Bool :=
  match Bytes.splitOnByte 0x3A (Decimal.dropSign text) with
  | first :: rest =>
    match rest.getLast? with
    | none => false
    | some last =>
      let fraction := last.dropWhile (· != 0x2E)
      (first.head?.any Bytes.isDigit) && isDigitsOrMarks first && rest.dropLast.all isSixty &&
        isSixty (last.takeWhile (· != 0x2E)) && isDigitsOrMarks (fraction.drop 1)
  | [] => false

/-! ## Moments -/

private def field? (limit : Nat) (text : Bytes) : Option (Nat × Bytes) :=
  let digits := (text.take 2).takeWhile Bytes.isDigit
  let n := Bytes.decimalValue digits
  if digits.isEmpty || n > limit then none else some (n, text.drop digits.length)

private def date? (text : Bytes) : Option Bytes := do
  let year := text.takeWhile Bytes.isDigit
  if year.length != 4 then none
  else
    let (month, rest) ← field? 12 (← Bytes.dropLead? "-" (text.drop 4))
    let (day, rest) ← field? 31 (← Bytes.dropLead? "-" rest)
    if 1 ≤ month && 1 ≤ day && day ≤ Clock.daysIn (Bytes.decimalValue year) month then some rest
    else none

private def skipFraction : Bytes → Bytes
  | mark :: b :: rest =>
    if (mark = 0x2E || mark = 0x2C) && Bytes.isDigit b then rest.dropWhile Bytes.isDigit
    else mark :: b :: rest
  | text => text

private def time? (text : Bytes) : Option Bytes := do
  let (_, rest) ← field? 23 text
  let (_, rest) ← field? 59 (← Bytes.dropLead? ":" rest)
  let (_, rest) ← field? 59 (← Bytes.dropLead? ":" rest)
  return skipFraction rest

private def isZone : Bytes → Bool
  | [0x5A] => true
  | [sign, h, h', 0x3A, m, m'] =>
    (sign = 0x2B || sign = 0x2D) && [h, h', m, m'].all Bytes.isDigit &&
      Bytes.decimalValue [h, h'] ≤ 24 && Bytes.decimalValue [m, m'] ≤ 60
  | _ => false

/-- A day, a day with a time after blanks, or a day with a time and a zone after the letter that
divides them. -/
private def isMoment (text : Bytes) : Bool :=
  match date? text with
  | none => false
  | some [] => true
  | some (b :: rest) =>
    if b = 0x54 || b = 0x74 then (time? rest).any isZone
    else b = 0x20 && time? (rest.dropWhile (· == 0x20)) == some []

def readsAsText (text : Bytes) : Bool :=
  !(isOneOf nullAndTruthWords text || isOneOf specialNumbers text || isOneOf oldTruthWords text ||
    isNumber text || isMoment text || isSexagesimal text)

end Keywordless.Yaml
