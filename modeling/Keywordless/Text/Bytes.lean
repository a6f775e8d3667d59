/-!
# Byte texts

Source files, messages and rendered reports are byte sequences: most are UTF-8, but a file may hold
any byte. Literal texts coerce to their UTF-8 bytes.
-/

namespace Keywordless

/-- A text as a sequence of bytes, not necessarily well-formed UTF-8. -/
abbrev Bytes := List UInt8

namespace Bytes

def ofString (s : String) : Bytes := s.toUTF8.data.toList

instance : Coe String Bytes := ⟨ofString⟩

/-- Bytes below this value stand for themselves; the others belong to longer encodings. -/
def asciiLimit : UInt8 := 0x80

def newline : UInt8 := 0x0A

def space : UInt8 := 0x20

def isAsciiText (text : Bytes) : Bool := text.all (· < asciiLimit)

def ofNat (n : Nat) : Bytes := (Nat.toDigits 10 n).map fun c => c.toNat.toUInt8

def ofInt : Int → Bytes
  | .ofNat n => ofNat n
  | .negSucc n => 0x2D :: ofNat (n + 1)

def ofNatPadded (width n : Nat) : Bytes :=
  let digits := ofNat n
  List.replicate (width - digits.length) 0x30 ++ digits

def spaces (n : Nat) : Bytes := List.replicate n space

def padLeft (width : Nat) (text : Bytes) : Bytes := spaces (width - text.length) ++ text

def padRight (width : Nat) (text : Bytes) : Bytes := text ++ spaces (width - text.length)

def join (separator : Bytes) (parts : List Bytes) : Bytes := List.intercalate separator parts

/-- A text between two others, or nothing at all when it is empty. -/
def enclosed (opening text closing : Bytes) : Bytes :=
  if text.isEmpty then [] else opening ++ text ++ closing

def hexDigit (n : Nat) : UInt8 := (Nat.digitChar (n % 16)).toNat.toUInt8

def hexByte (b : UInt8) : Bytes := [hexDigit (b.toNat / 16), hexDigit b.toNat]

def hex (text : Bytes) : Bytes := text.flatMap hexByte

def hexDigits : Nat → Nat → Bytes
  | 0, _ => []
  | width + 1, n => hexDigits width (n / 16) ++ [hexDigit n]

def isDigit (b : UInt8) : Bool := 0x30 ≤ b && b ≤ 0x39

def isUpper (b : UInt8) : Bool := 0x41 ≤ b && b ≤ 0x5A

def isLower (b : UInt8) : Bool := 0x61 ≤ b && b ≤ 0x7A

def decimalValue (digits : Bytes) : Nat :=
  digits.foldl (fun value b => value * 10 + (b.toNat - 0x30)) 0

def lt : Bytes → Bytes → Bool
  | _, [] => false
  | [], _ :: _ => true
  | a :: as, b :: bs => a < b || (a == b && lt as bs)

def splitOnByte (sep : UInt8) : Bytes → List Bytes
  | [] => [[]]
  | b :: rest =>
    match splitOnByte sep rest with
    | [] => [[b]]
    | piece :: pieces => if b == sep then [] :: piece :: pieces else (b :: piece) :: pieces

def dropLead? : Bytes → Bytes → Option Bytes
  | [], text => some text
  | _ :: _, [] => none
  | a :: lead, b :: text => if a == b then dropLead? lead text else none

def startsWith (text lead : Bytes) : Bool := (dropLead? lead text).isSome

def endsWith (text tail : Bytes) : Bool :=
  tail.length ≤ text.length && text.drop (text.length - tail.length) == tail

end Bytes

end Keywordless
