import Keywordless.Text.Cluster
import Keywordless.Text.Table.Width

/-!
# Glyphs

What a terminal draws as one glyph, and how many cells it takes. Unlike the clusters of `Cluster`,
a glyph is cut by adjacent characters alone: no memory reaches back over what extends a character,
except from a joiner to the pictograph before it.
-/

namespace Keywordless.Glyph

inductive Standing where
  | open_
  | afterReturn
  | afterControl
  | afterLead
  | afterVowel
  | afterTail
  | afterPrepended
  | afterPictograph
  | joining
  | halfFlag
  | flag
  deriving DecidableEq, Repr

def Standing.next : Standing → Cluster.Class → Standing
  | .afterPictograph, .extend => .afterPictograph
  | .afterPictograph, .joiner => .joining
  | .halfFlag, .regional => .flag
  | _, .carriageReturn => .afterReturn
  | _, .lineFeed | _, .control => .afterControl
  | _, .lead => .afterLead
  | .afterLead, .closedSyllable => .afterTail
  | _, .vowel | _, .openSyllable => .afterVowel
  | _, .tail | _, .closedSyllable => .afterTail
  | _, .prepended => .afterPrepended
  | _, .pictograph => .afterPictograph
  | _, .regional => .halfFlag
  | _, .extend | _, .joiner | _, .spacing | _, .other => .open_

def Standing.holds : Standing → Cluster.Class → Bool
  | .afterReturn, .lineFeed => true
  | .afterReturn, _ | .afterControl, _ => false
  | _, .carriageReturn | _, .lineFeed | _, .control => false
  | _, .extend | _, .joiner | _, .spacing => true
  | .afterLead, .lead | .afterLead, .vowel => true
  | .afterLead, .openSyllable | .afterLead, .closedSyllable => true
  | .afterVowel, .vowel | .afterVowel, .tail | .afterTail, .tail => true
  | .afterPrepended, _ => true
  | .joining, .pictograph => true
  | .halfFlag, .regional => true
  | _, _ => false

def cells (c : Char) (cls : Cluster.Class) : Nat :=
  let n := c.toNat
  match cls with
  | .control | .carriageReturn | .lineFeed | .extend | .joiner => 0
  | .regional => 2
  | .pictograph => if CharSet.emoji.has n then 2 else 1
  | _ =>
    if n = 0x2E3A then 3
    else if n = 0x2E3B then 4
    else if CharSet.wide.has n then 2
    else 1

private def textForm : Char := Char.ofNat 0xFE0E

private def colourForm : Char := Char.ofNat 0xFE0F

/-- The cells of a glyph that starts with a character of class `first`, after one more character. A
pictograph is as wide as its form; a flag and a syllable are as wide as their first letter. -/
private def widened (first : Cluster.Class) (width : Nat) (c : Char) (cls : Cluster.Class) : Nat :=
  match first with
  | .pictograph => if c = textForm then 1 else if c = colourForm then 2 else width
  | .regional | .lead => width
  | _ => width + cells c cls

private def continued (first : Cluster.Class) (standing : Standing) (width : Nat) (text : Bytes) :
    Nat × Nat :=
  match text with
  | [] => (width, 0)
  | b :: rest =>
    let step := Utf8.decode (b :: rest)
    let cls := Cluster.Class.ofChar step.1
    if standing.holds cls then
      let (width, size) := continued first (standing.next cls) (widened first width step.1 cls)
        ((b :: rest).drop step.2)
      (width, step.2 + size)
    else (width, 0)
termination_by text.length
decreasing_by
  have := Utf8.decode_size_pos (b :: rest)
  simp only [List.length_drop, List.length_cons]
  omega

def first (text : Bytes) : Nat × Nat :=
  let step := Utf8.decode text
  let cls := Cluster.Class.ofChar step.1
  let (width, size) := continued cls (Standing.open_.next cls) (cells step.1 cls)
    (text.drop step.2)
  (width, step.2 + size)

theorem first_size_pos (text : Bytes) : 0 < (first text).2 := by
  have := Utf8.decode_size_pos text
  simp only [first]
  omega

end Keywordless.Glyph
