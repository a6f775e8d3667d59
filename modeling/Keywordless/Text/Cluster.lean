import Keywordless.Text.Utf8
import Keywordless.Text.Table.Cluster

/-!
# Grapheme clusters

What a reader sees as one character may be several: a base with marks, a syllable in letters, a
flag, pictographs held together by joiners. `Cluster.split` cuts a text into such clusters. An
encoding that the end of the text cuts short belongs to the cluster before it.
-/

namespace Keywordless.Cluster

inductive Class where
  | other
  | carriageReturn
  | lineFeed
  | control
  | extend
  | joiner
  | regional
  | prepended
  | spacing
  | lead
  | vowel
  | tail
  | openSyllable
  | closedSyllable
  | pictograph
  deriving DecidableEq, Repr

private def within (lo hi n : Nat) : Bool := lo ≤ n && n ≤ hi

def Class.ofChar (c : Char) : Class :=
  let n := c.toNat
  if n = 0x0D then carriageReturn
  else if n = 0x0A then lineFeed
  else if CharSet.clusterControl.has n then control
  else if n < 0xA9 then other
  else if n = 0x200D then joiner
  else if CharSet.clusterExtend.has n then extend
  else if within 0x1F1E6 0x1F1FF n then regional
  else if CharSet.clusterPrepend.has n then prepended
  else if CharSet.clusterSpacing.has n then spacing
  else if within 0x1100 0x115F n || within 0xA960 0xA97C n then lead
  else if within 0x1160 0x11A7 n || within 0xD7B0 0xD7C6 n then vowel
  else if within 0x11A8 0x11FF n || within 0xD7CB 0xD7FB n then tail
  else if within 0xAC00 0xD7A3 n then
    if (n - 0xAC00) % 28 = 0 then openSyllable else closedSyllable
  else if CharSet.pictographs.has n then pictograph
  else other

private def announced (b : UInt8) : Nat :=
  if b < 0xC2 then 1 else if b < 0xE0 then 2 else if b < 0xF0 then 3 else if b < 0xF8 then 4 else 1

private def isContinuation (b : UInt8) : Bool := 0x80 ≤ b && b ≤ 0xBF

/-- The class and size of the unit at the front of a text, or nothing when the text ends inside it.
A malformed unit ends before the first byte that does not continue it. -/
private def unit? : Bytes → Option (Class × Nat)
  | [] => none
  | b :: rest =>
    match Utf8.decode? (b :: rest) with
    | some (c, size) => some (.ofChar c, size)
    | none =>
      let size := announced b
      if rest.length + 1 < size then none
      else some (.other, 1 + ((rest.take (size - 1)).takeWhile isContinuation).length)

private theorem unit?_size_pos {text : Bytes} {step : Class × Nat} (h : unit? text = some step) :
    0 < step.2 := by
  unfold unit? at h
  split at h
  · simp at h
  · split at h
    · next hd =>
      simp only [Option.some.injEq] at h
      subst h
      exact Utf8.decode?_size_pos hd
    · simp only at h
      split at h
      · simp at h
      · simp only [Option.some.injEq] at h
        subst h
        dsimp only
        omega

private structure Memory where
  last : Class
  solid : Class
  earlier : Class
  flags : Nat

private def breaksAlone : Class → Bool
  | .control | .carriageReturn | .lineFeed => true
  | _ => false

private def continues (m : Memory) (current : Class) : Bool :=
  if m.last == .carriageReturn && current == .lineFeed then true
  else if breaksAlone m.last || breaksAlone current then false
  else
    match m.last, current with
    | .lead, .lead | .lead, .vowel | .lead, .openSyllable | .lead, .closedSyllable => true
    | .openSyllable, .vowel | .openSyllable, .tail | .vowel, .vowel | .vowel, .tail => true
    | .closedSyllable, .tail | .tail, .tail => true
    | _, .extend | _, .joiner | _, .spacing => true
    | .prepended, _ => true
    | .joiner, .pictograph => m.earlier == .pictograph
    | .regional, .regional => m.flags % 2 == 0
    | _, _ => false

private def Memory.start (c : Class) : Memory :=
  ⟨c, if c == .extend then .other else c, .other, 0⟩

private def Memory.push (m : Memory) (c : Class) : Memory :=
  let flags := if m.last == .regional && c == .regional then m.flags + 1 else m.flags
  if c == .extend then { m with last := c, flags } else ⟨c, c, m.solid, flags⟩

private def tailSize (m : Memory) (text : Bytes) : Nat :=
  match _h : unit? text with
  | none => text.length
  | some step =>
    if continues m step.1 then step.2 + tailSize (m.push step.1) (text.drop step.2) else 0
termination_by text.length
decreasing_by
  have := unit?_size_pos _h
  have : text ≠ [] := by rintro rfl; simp [unit?] at _h
  have := List.length_pos_iff.mpr this
  simp only [List.length_drop]
  omega

def firstSize (text : Bytes) : Nat :=
  match unit? text with
  | none => text.length
  | some step => step.2 + tailSize (.start step.1) (text.drop step.2)

private theorem firstSize_pos (b : UInt8) (rest : Bytes) : 0 < firstSize (b :: rest) := by
  unfold firstSize
  split
  · simp
  · next h => have := unit?_size_pos h; omega

def split : Bytes → List Bytes
  | [] => []
  | b :: rest =>
    let size := firstSize (b :: rest)
    (b :: rest).take size :: split ((b :: rest).drop size)
termination_by text => text.length
decreasing_by
  have := firstSize_pos b rest
  simp only [List.length_drop, List.length_cons]
  omega

end Keywordless.Cluster
