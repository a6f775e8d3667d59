import Keywordless.Version.Basic

/-!
# Version constraints

A constraint is a choice between groups of comparisons that all have to hold. A number of a
comparison may be left open, and two versions around a hyphen make a range.
-/

namespace Keywordless

namespace Constraint

inductive Relation where
  | same
  | different
  | greater
  | less
  | atLeast
  | atMost
  /-- The same minor version or a later patch of it. -/
  | near
  /-- No change of the leftmost number that is not zero. -/
  | compatible
  deriving DecidableEq, Repr

inductive OpenFrom where
  | nothing
  | major
  | minor
  | patch
  deriving DecidableEq, Repr

structure Comparison where
  relation : Relation
  version : Version
  opening : OpenFrom

private def relations : List (String × Relation) := [
  ("!=", .different), (">=", .atLeast), ("=>", .atLeast), ("<=", .atMost), ("=<", .atMost),
  ("~>", .near), ("=", .same), (">", .greater), ("<", .less), ("~", .near), ("^", .compatible)]

private def relationAt (text : Bytes) : Relation × Bytes :=
  match relations.findSome? fun (word, r) => (Bytes.dropLead? word text).map (r, ·) with
  | some found => found
  | none => (.same, text)

private def isSpace (b : UInt8) : Bool := b = 0x20 || (0x09 ≤ b && b ≤ 0x0D && b != 0x0B)

private def isOpen (part : Bytes) : Bool := part == [0x78] || part == [0x58] || part == [0x2A]

private def isPartByte (b : UInt8) : Bool := Bytes.isDigit b || isOpen [b] || b = 0x7C

private def comparison? (relation : Relation) (s : Version.Spelling) : Option Comparison :=
  let zero : Option Bytes := some [0x30]
  let opened (opening : OpenFrom) (s : Version.Spelling) : Option Comparison :=
    (Version.ofSpelling? { s with metadata := [] }).map ({ relation, version := ·, opening })
  if isOpen s.major then opened .major { s with major := [0x30], minor := zero, patch := zero }
  else if s.minor.all isOpen then opened .minor { s with minor := zero, patch := zero }
  else if s.patch.all isOpen then opened .patch { s with patch := zero }
  else (Version.ofSpelling? s).map ({ relation, version := ·, opening := .nothing })

private def group? : Nat → Bytes → Option (List Comparison)
  | 0, _ => none
  | steps + 1, text => do
    let (relation, rest) := relationAt (text.dropWhile isSpace)
    let (s, rest) ← Version.spelling? isPartByte (rest.dropWhile isSpace)
    let first ← comparison? relation s
    match rest.dropWhile isSpace with
    | [] => return [first]
    | 0x2C :: after => return first :: (← group? steps after)
    | after => if rest.head?.any isSpace then return first :: (← group? steps after) else none

/-- The two ends of a range at the front of a text, and the rest. -/
private def range? (text : Bytes) : Option (Bytes × Bytes × Bytes) := do
  let start := text.dropWhile isSpace
  let (_, afterLow) ← Version.spelling? isPartByte start
  let gap := afterLow.dropWhile isSpace
  let afterHyphen ← Bytes.dropLead? "-" gap
  let high := afterHyphen.dropWhile isSpace
  if gap.length = afterLow.length || high.length = afterHyphen.length then none
  else
    let (_, rest) ← Version.spelling? isPartByte high
    let low := start.take (start.length - afterLow.length)
    return (low, high.take (high.length - rest.length), rest.dropWhile isSpace)

/-- Ranges written as two comparisons. -/
private def withoutRanges : Nat → Bytes → Bytes
  | 0, text => text
  | _ + 1, [] => []
  | steps + 1, b :: text =>
    match range? (b :: text) with
    | some (low, high, rest) => ">= " ++ low ++ ", <= " ++ high ++ " " ++ withoutRanges steps rest
    | none => b :: withoutRanges steps text

private def alternatives : Bytes → List Bytes
  | [] => [[]]
  | 0x7C :: 0x7C :: rest => [] :: alternatives rest
  | b :: rest =>
    match alternatives rest with
    | [] => [[b]]
    | piece :: more => (b :: piece) :: more

end Constraint

structure Constraint where
  groups : List (List Constraint.Comparison)

namespace Constraint

def ofText? (text : Bytes) : Option Constraint := do
  let groups ← (alternatives (withoutRanges text.length text)).mapM fun piece =>
    group? (piece.length + 1) piece
  return ⟨groups⟩

namespace Comparison

private def isNear (c : Comparison) (v : Version) : Bool :=
  let w := c.version
  if v.compareRelease w == .lt then false
  else if w.major = 0 && w.minor = 0 && w.patch = 0 &&
      (c.opening == .nothing || c.opening == .major) then
    true
  else v.major = w.major && (v.minor = w.minor || c.opening == .minor)

private def isCompatible (c : Comparison) (v : Version) : Bool :=
  let w := c.version
  if v.compareRelease w == .lt then false
  else if w.major > 0 || c.opening == .minor then v.major = w.major
  else if v.major > 0 then false
  else if w.minor > 0 || c.opening == .patch then v.minor = w.minor
  else if v.minor > 0 then false
  else v.patch = w.patch

private def isDifferent (c : Comparison) (v : Version) : Bool :=
  let w := c.version
  let plain := v.compareRelease w != .eq
  match c.opening with
  | .nothing => plain
  | .major => w.major != v.major || w.minor != v.minor || w.patch != v.patch || plain
  | .minor => w.major != v.major
  | .patch => w.major != v.major || w.minor != v.minor || !w.pre.isEmpty

private def isGreater (c : Comparison) (v : Version) : Bool :=
  let w := c.version
  match c.opening with
  | .nothing | .major => v.compareRelease w == .gt
  | .minor => v.major > w.major
  | .patch => v.major > w.major || (v.major = w.major && v.minor > w.minor)

private def isAtMost (c : Comparison) (v : Version) : Bool :=
  let w := c.version
  if c.opening == .nothing then v.compareRelease w != .gt
  else !(v.major > w.major || (v.major = w.major && v.minor > w.minor && c.opening != .minor))

def holds (c : Comparison) (v : Version) : Bool :=
  match c.relation with
  | .same => if c.opening == .nothing then v.compareRelease c.version == .eq else c.isNear v
  | .different => c.isDifferent v
  | .greater => c.isGreater v
  | .less => v.compareRelease c.version == .lt
  | .atLeast => v.compareRelease c.version != .lt
  | .atMost => c.isAtMost v
  | .near => c.isNear v
  | .compatible => c.isCompatible v

end Comparison

/-- Whether the release part of a version meets the constraint. -/
def allows (c : Constraint) (v : Version) : Bool :=
  c.groups.any fun group => group.all fun comparison => comparison.holds v.release

end Constraint

end Keywordless
