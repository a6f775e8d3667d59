import Keywordless.Text.Bytes

/-!
# Versions

A version has three numbers, of which the last two may be left out, an optional prerelease after a
hyphen and optional metadata after a plus sign.
-/

namespace Keywordless

structure Version where
  major : Nat
  minor : Nat
  patch : Nat
  pre : Bytes := []
  metadata : Bytes := []
  deriving DecidableEq, Repr, Inhabited

namespace Version

structure Spelling where
  major : Bytes
  minor : Option Bytes
  patch : Option Bytes
  pre : Bytes
  metadata : Bytes

private def isIdentByte (b : UInt8) : Bool :=
  Bytes.isDigit b || Bytes.isLower b || Bytes.isUpper b || b = 0x2D

private def dotted? (inPart : UInt8 → Bool) : Bytes → Option (Bytes × Bytes)
  | 0x2E :: rest =>
    let part := rest.takeWhile inPart
    if part.isEmpty then none else some (part, rest.drop part.length)
  | _ => none

private def furtherIdents : Nat → Bytes → Bytes × Bytes
  | 0, text => ([], text)
  | steps + 1, text =>
    match dotted? isIdentByte text with
    | some (part, rest) =>
      let (more, rest) := furtherIdents steps rest
      (0x2E :: part ++ more, rest)
    | none => ([], text)

private def idents (lead : UInt8) (text : Bytes) : Bytes × Bytes :=
  match text with
  | [] => ([], [])
  | b :: rest =>
    let first := rest.takeWhile isIdentByte
    if b != lead || first.isEmpty then ([], text)
    else
      let (more, rest) := furtherIdents rest.length (rest.drop first.length)
      (first ++ more, rest)

private def optionalPart (inPart : UInt8 → Bool) (text : Bytes) : Option Bytes × Bytes :=
  match dotted? inPart text with
  | some (part, rest) => (some part, rest)
  | none => (none, text)

/-- The longest version at the front of a text, its number parts made of `inPart`, and the rest. -/
def spelling? (inPart : UInt8 → Bool) (text : Bytes) : Option (Spelling × Bytes) :=
  let text := (Bytes.dropLead? "v" text).getD text
  let major := text.takeWhile inPart
  if major.isEmpty then none
  else
    let (minor, rest) := optionalPart inPart (text.drop major.length)
    let (patch, rest) := if minor.isSome then optionalPart inPart rest else (none, rest)
    let (pre, rest) := idents 0x2D rest
    let (metadata, rest) := idents 0x2B rest
    some ({ major, minor, patch, pre, metadata }, rest)

def number? (digits : Bytes) : Option Nat :=
  if digits.isEmpty || !digits.all Bytes.isDigit then none
  else
    let n := Bytes.decimalValue digits
    if n < Nat.pow 2 64 then some n else none

/-- Numeric identifiers of a prerelease have no leading zero. -/
private def isValidPre (pre : Bytes) : Bool :=
  (Bytes.splitOnByte 0x2E pre).all fun part =>
    !(part.all Bytes.isDigit && part.length > 1 && part.head? == some 0x30)

def ofSpelling? (s : Spelling) : Option Version := do
  let major ← number? s.major
  let minor ← (s.minor.map number?).getD (some 0)
  let patch ← (s.patch.map number?).getD (some 0)
  if isValidPre s.pre then some { major, minor, patch, pre := s.pre, metadata := s.metadata }
  else none

def ofText? (text : Bytes) : Option Version := do
  match ← spelling? Bytes.isDigit text with
  | (s, []) => ofSpelling? s
  | _ => none

def text (v : Version) : Bytes :=
  Bytes.ofNat v.major ++ "." ++ Bytes.ofNat v.minor ++ "." ++ Bytes.ofNat v.patch ++
    Bytes.enclosed "-" v.pre [] ++ Bytes.enclosed "+" v.metadata []

def release (v : Version) : Version := { v with pre := [], metadata := [] }

/-- How a release compares with a version. A prerelease comes before its release. -/
def compareRelease (v other : Version) : Ordering :=
  (compare v.major other.major).then <| (compare v.minor other.minor).then <|
    (compare v.patch other.patch).then <| if other.pre.isEmpty then .eq else .gt

end Version

end Keywordless
