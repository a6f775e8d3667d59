import Keywordless.Text.Bytes

/-!
# Decimal numbers

Numbers in positional notation with an optional fraction and an optional power of ten, read without
rounding. `Decimal.fitsDouble` says which of them round to a finite double.
-/

namespace Keywordless

structure Decimal where
  whole : Bytes
  fraction : Option Bytes
  scale : Int

namespace Decimal

def dropSign : Bytes → Bytes
  | b :: rest => if b = 0x2B || b = 0x2D then rest else b :: rest
  | [] => []

private def scale? : Bytes → Option Int
  | [] => some 0
  | b :: rest =>
    let digits := dropSign rest
    if (b = 0x65 || b = 0x45) && !digits.isEmpty && digits.all Bytes.isDigit then
      let value : Int := Bytes.decimalValue digits
      some (if rest.head? == some 0x2D then -value else value)
    else none

def parse? (text : Bytes) : Option Decimal := do
  let whole := text.takeWhile Bytes.isDigit
  match text.dropWhile Bytes.isDigit with
  | 0x2E :: rest =>
    let fraction := rest.takeWhile Bytes.isDigit
    let scale ← scale? (rest.dropWhile Bytes.isDigit)
    if whole.isEmpty && fraction.isEmpty then none else some ⟨whole, some fraction, scale⟩
  | rest =>
    let scale ← scale? rest
    if whole.isEmpty then none else some ⟨whole, none, scale⟩

/-- Half a unit in the last place above the largest double. -/
private def doubleLimit : Nat := Nat.pow 2 1024 - Nat.pow 2 970

/-- Whether the number rounds to a finite double. The number of digits decides where it can, so that
no huge power is computed. -/
def fitsDouble (d : Decimal) : Bool :=
  let fraction := d.fraction.getD []
  let n := Bytes.decimalValue (d.whole ++ fraction)
  let exponent := d.scale - fraction.length
  let size : Int := (Nat.toDigits 10 n).length + exponent
  if n = 0 || size < 300 then true
  else if size > 320 then false
  else if exponent ≥ 0 then n * Nat.pow 10 exponent.toNat < doubleLimit
  else n < doubleLimit * Nat.pow 10 (-exponent).toNat

end Decimal

end Keywordless
