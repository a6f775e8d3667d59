import Keywordless.Text.Utf8
import Keywordless.Text.Table.Decomposition

/-!
# Canonical composition

Names that differ only in how their accents are encoded are one name. `compose` decomposes a text,
puts the marks after each base into canonical order and joins what has a composed form. A run of
more than thirty marks is cut by a grapheme joiner, so that each base has boundedly many marks.
-/

namespace Keywordless.Normal

def combiningClass (n : Nat) : Nat :=
  ((CharSet.combiningClasses.find? fun (lo, hi, _) => lo ≤ n && n ≤ hi).map (·.2.2)).getD 0

def syllableBase := 0xAC00
def leadBase := 0x1100
def vowelBase := 0x1161
def tailBase := 0x11A7
def vowelCount := 21
def tailCount := 28
def syllableCount := 11172

def syllableLetters? (n : Nat) : Option (List Nat) :=
  if syllableBase ≤ n && n < syllableBase + syllableCount then
    let index := n - syllableBase
    let lead := leadBase + index / (vowelCount * tailCount)
    let vowel := vowelBase + index % (vowelCount * tailCount) / tailCount
    let tail := index % tailCount
    some (if tail = 0 then [lead, vowel] else [lead, vowel, tailBase + tail])
  else none

section Decomposition

variable (mappings : List CharSet.Mapping)

def mapping? (n : Nat) : Option (List Nat) :=
  (mappings.find? fun m => m.1 == n).map fun (_, first, second) =>
    if second = 0 then [first] else [first, second]

def mappingDepth := 4

def expand : Nat → Nat → List Nat
  | 0, n => [n]
  | depth + 1, n =>
    match mapping? mappings n with
    | none => [n]
    | some parts => parts.flatMap (expand depth)

def decompose (n : Nat) : List Nat := (syllableLetters? n).getD (expand mappings mappingDepth n)

end Decomposition

/-- Moves a mark before the marks of higher class at the end of what is collected. -/
def insertMark (cls n : Nat) : List (Nat × Nat) → List (Nat × Nat)
  | [] => [(cls, n)]
  | (cls', n') :: rest =>
    if cls < cls' then (cls', n') :: insertMark cls n rest else (cls, n) :: (cls', n') :: rest

def order (classOf : Nat → Nat) (collected : List (Nat × Nat)) : List Nat → List (Nat × Nat)
  | [] => collected.reverse
  | n :: rest =>
    let cls := classOf n
    order classOf (if cls = 0 then (0, n) :: collected else insertMark cls n collected) rest

def isLead (n : Nat) : Bool := leadBase ≤ n && n < leadBase + 19
def isVowel (n : Nat) : Bool := vowelBase ≤ n && n < vowelBase + vowelCount
def isTail (n : Nat) : Bool := tailBase < n && n < tailBase + tailCount

def isOpenSyllable (n : Nat) : Bool :=
  syllableBase ≤ n && n < syllableBase + syllableCount && (n - syllableBase) % tailCount = 0

def syllable? (a b : Nat) : Option Nat :=
  if isLead a && isVowel b then
    some (syllableBase + ((a - leadBase) * vowelCount + (b - vowelBase)) * tailCount)
  else if isOpenSyllable a && isTail b then some (a + (b - tailBase))
  else none

def mapped? (a b : Nat) : Option Nat :=
  (CharSet.mappings.find? fun (n, first, second) =>
    first == a && second == b && second != 0 && !CharSet.compositionExclusions.has n).map (·.1)

/-- Whether a code point joins what stands before it: letters of a syllable after the first, and
what some pair ends with. -/
def joinsBackward (n : Nat) : Bool :=
  isVowel n || isTail n ||
    CharSet.mappings.any fun (m, _, second) =>
      second == n && n != 0 && !CharSet.compositionExclusions.has m

/-- A sequence under composition: the code point that others may join, with its class, what stands
before it and what stayed behind it, both last to first. -/
structure Joining where
  before : List (Nat × Nat)
  base : Nat × Nat
  behind : List (Nat × Nat)

def Joining.lastClass (j : Joining) : Nat := (j.behind.head?.getD j.base).1

def Joining.settle (j : Joining) : Joining :=
  match j.behind with
  | (0, n) :: rest => ⟨rest ++ j.base :: j.before, (0, n), []⟩
  | _ => j

/-- What stands between the base and a code point of class `cls` keeps the two apart. -/
def Joining.blocks (j : Joining) (cls : Nat) : Bool :=
  !j.behind.isEmpty && j.lastClass ≥ cls

def Joining.keep (j : Joining) (c : Nat × Nat) : Joining :=
  { j with behind := c :: j.behind }

def Joining.join (pair? : Nat → Nat → Option Nat) (j : Joining) (c : Nat × Nat) : Joining :=
  let j := j.settle
  if j.blocks c.1 then j.keep c
  else
    match pair? j.base.2 c.2 with
    | some composed => { j with base := (0, composed) }
    | none => j.keep c

def Joining.sequence (j : Joining) : List (Nat × Nat) :=
  (j.behind ++ j.base :: j.before).reverse

def joinSyllables : List (Nat × Nat) → List (Nat × Nat)
  | [] => []
  | c :: rest => (rest.foldl (Joining.join syllable?) ⟨[], c, []⟩).sequence

/-- Composition of the rest of the sequence `all`. At the first letter of a syllable, what is
composed so far takes as many places at the front of the sequence as it has, and the whole is gone
through again for syllables. -/
def joinRest (all : List (Nat × Nat)) (j : Joining) :
    List (Nat × Nat) → List (Nat × Nat)
  | [] => j.sequence
  | c :: rest =>
    if isVowel c.2 || isTail c.2 then
      joinSyllables (j.sequence ++ all.drop j.sequence.length)
    else joinRest all (if joinsBackward c.2 then j.join mapped? c else j.keep c) rest

def joinAll : List (Nat × Nat) → List (Nat × Nat)
  | [] => []
  | c :: rest => joinRest (c :: rest) ⟨[], c, []⟩ rest

def composeRun (run : List Nat) : List Nat :=
  (joinAll (order combiningClass [] (run.flatMap (decompose CharSet.mappings)))).map (·.2)

def attaches (n : Nat) : Bool := combiningClass n ≠ 0 || joinsBackward n

/-- How many attached code points the decomposition of `n` begins and ends with. Presentation forms
count as the sequence that they present. -/
def attachedEnds (n : Nat) : Nat × Nat :=
  if CharSet.presentedAttached.has n then (1, 1)
  else
    let parts := decompose CharSet.mappings n
    match CharSet.presentedTrailing.find? fun (lo, hi, _) => lo ≤ n && n ≤ hi with
    | some (_, _, trailing) => (0, trailing)
    | none => ((parts.takeWhile attaches).length, (parts.reverse.takeWhile attaches).length)

def longestRun : Nat := 30

def joiner : Nat := 0x34F

/-- Cuts a text before each base and inside overlong runs. `run` holds the current piece, last to
first, and `attached` how many attached code points it ends with. -/
def runs (run : List Nat) (attached : Nat) : List Nat → List (List Nat)
  | [] => if run.isEmpty then [] else [run.reverse]
  | n :: rest =>
    let (leading, trailing) := attachedEnds n
    if leading = 0 then
      if run.isEmpty then runs [n] trailing rest else run.reverse :: runs [n] trailing rest
    else if attached + leading > longestRun then
      (joiner :: run).reverse :: runs [n] leading rest
    else runs (n :: run) (attached + leading) rest

def composeAll (text : List Nat) : List Nat := (runs [] 0 text).flatMap composeRun

def compose (text : Bytes) : Bytes :=
  Utf8.encodeAll ((composeAll ((Utf8.chars text).map Char.toNat)).map Char.ofNat)

end Keywordless.Normal
