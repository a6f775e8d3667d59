import Keywordless.Text.Quoted

/-!
# Integers and truth values in text

Integers of 64 bits with an optional sign and an optional prefix for the base; a leading zero alone
stands for base eight. Underscores may stand between digits.
-/

namespace Keywordless

inductive NumeralProblem where
  | malformed
  | outOfRange
  deriving DecidableEq, Repr

def NumeralProblem.text : NumeralProblem → Bytes
  | malformed => "invalid syntax"
  | outOfRange => "value out of range"

namespace Numeral

private def lowered (b : UInt8) : UInt8 := if Bytes.isUpper b then b + 0x20 else b

private def digit? (b : UInt8) : Option Nat :=
  let b := lowered b
  if Bytes.isDigit b then some (b.toNat - 0x30)
  else if Bytes.isLower b then some (b.toNat - 0x61 + 10)
  else none

private def underscore : UInt8 := 0x5F

/-- Adds digits to a value that has to stay below `Nat.pow 2 64`. -/
private def accumulate (base : Nat) (value : Nat) : Bytes → Except NumeralProblem Nat
  | [] => .ok value
  | b :: rest =>
    if b = underscore then accumulate base value rest
    else
      match digit? b with
      | none => .error .malformed
      | some d =>
        if d ≥ base then .error .malformed
        else if value * base + d ≥ Nat.pow 2 64 then .error .outOfRange
        else accumulate base (value * base + d) rest

private inductive Before where
  | start
  | digit
  | underscore
  | other
  deriving DecidableEq

private def underscoresFit (hex : Bool) (before : Before) : Bytes → Bool
  | [] => before != .underscore
  | b :: rest =>
    let isDigit := Bytes.isDigit b || (hex && 0x61 ≤ lowered b && lowered b ≤ 0x66)
    if isDigit then underscoresFit hex .digit rest
    else if b = underscore then before = .digit && underscoresFit hex .underscore rest
    else before != .underscore && underscoresFit hex .other rest

/-- The base and the digits, with what stands before the digits. -/
private def split : Bytes → Nat × Bytes × Before
  | 0x30 :: mark :: rest =>
    let bases : List (UInt8 × Nat) := [(0x62, 2), (0x6F, 8), (0x78, 16)]
    match bases.lookup (lowered mark), rest with
    | some base, _ :: _ => (base, rest, .digit)
    | _, _ => (8, mark :: rest, .digit)
  | 0x30 :: rest => (8, rest, .digit)
  | digits => (10, digits, .start)

private def natural (text : Bytes) : Except NumeralProblem Nat := do
  if text.isEmpty then throw .malformed
  let (base, digits, before) := split text
  let value ← accumulate base 0 digits
  if digits.any (· == underscore) && !underscoresFit (base = 16) before digits then throw .malformed
  return value

def integer (text : Bytes) : Except NumeralProblem Int := do
  let (negative, digits) := match text with
    | 0x2B :: rest => (false, rest)
    | 0x2D :: rest => (true, rest)
    | _ => (false, text)
  let n ← natural digits
  if negative then
    if n > Nat.pow 2 63 then throw .outOfRange else return -(n : Int)
  else if n ≥ Nat.pow 2 63 then throw .outOfRange
  else return n

def truth (text : Bytes) : Except NumeralProblem Bool :=
  let oneOf (words : List String) : Bool := words.any fun w => text == Bytes.ofString w
  if oneOf ["1", "t", "T", "TRUE", "true", "True"] then .ok true
  else if oneOf ["0", "f", "F", "FALSE", "false", "False"] then .ok false
  else .error .malformed

end Numeral

end Keywordless
