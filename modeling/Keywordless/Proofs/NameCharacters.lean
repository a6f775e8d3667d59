import Keywordless.Proofs.CanonicalForms
import Keywordless.Token.Lexeme
import Mathlib

/-!
# The characters of names and their parts

The letters, digits and non-spacing marks that names are made of are not closed under canonical
decomposition: seven spacing marks are parts of letters and non-spacing marks. Together with these,
and two more that are made of them alone, they are, and a character starts a name exactly if its
first part does. Both facts are checked against the whole table of mappings, with the sets of
characters as numbers, one bit a character.
-/

namespace Keywordless

namespace CharSet

/-- The spacing marks that are parts of characters of names, and those made of such parts. -/
def spacingParts : CharSet :=
  [(0xBD7, 0xBD7), (0x1B35, 0x1B35), (0x1B3B, 0x1B3B), (0x1B3D, 0x1B3D), (0x1B43, 0x1B43),
    (0x113C2, 0x113C2), (0x113C5, 0x113C5), (0x113C8, 0x113C9)]

def bits : CharSet → Nat
  | [] => 0
  | (lo, hi) :: rest => ((2 ^ (hi + 1 - lo) - 1) ||| (bits rest >>> lo)) <<< lo

private theorem testBit_bits (s : CharSet) (n : Nat) : s.bits.testBit n = s.has n := by
  induction s with
  | nil => simp [bits, has]
  | cons range rest ih =>
    obtain ⟨lo, hi⟩ := range
    rw [bits, has, Nat.testBit_shiftLeft, Nat.testBit_or, Nat.testBit_two_pow_sub_one,
      Nat.testBit_shiftRight]
    by_cases hlo : lo ≤ n
    · have hrange : n - lo < hi + 1 - lo ↔ n ≤ hi := by omega
      rw [Nat.add_sub_cancel' hlo, ih]
      simp [hlo, hrange]
    · simp [hlo]

end CharSet

def bitWindow (s lo hi : Nat) : Nat := (s >>> lo) % 2 ^ (hi + 1 - lo)

private theorem testBit_bitWindow (s : Nat) {lo hi n : Nat} (hlo : lo ≤ n) (hhi : n ≤ hi) :
    (bitWindow s lo hi).testBit (n - lo) = s.testBit n := by
  have hinside : n - lo < hi + 1 - lo := by omega
  rw [bitWindow, Nat.testBit_mod_two_pow, Nat.testBit_shiftRight, Nat.add_sub_cancel' hlo]
  simp [hinside]

private theorem testBit_of_bitWindow_full {s lo hi n : Nat}
    (h : bitWindow s lo hi = 2 ^ (hi + 1 - lo) - 1) (hlo : lo ≤ n) (hhi : n ≤ hi) :
    s.testBit n = true := by
  have hinside : n - lo < hi + 1 - lo := by omega
  rw [← testBit_bitWindow s hlo hhi, h, Nat.testBit_two_pow_sub_one]
  simp [hinside]

private theorem testBit_of_bitWindow_empty {s lo hi n : Nat} (h : bitWindow s lo hi = 0)
    (hlo : lo ≤ n) (hhi : n ≤ hi) : s.testBit n = false := by
  rw [← testBit_bitWindow s hlo hhi, h, Nat.zero_testBit]

/-! ### The sets of a name -/

def isNameStart (n : Nat) : Bool := CharSet.has [(0x5F, 0x5F)] n || CharSet.letters.has n

/-- Code points that a name may hold before it is composed, or that a part of it may. -/
def isNamePart (n : Nat) : Bool :=
  isNameStart n || CharSet.decimalDigits.has n || CharSet.nonspacingMarks.has n ||
    CharSet.spacingParts.has n

/-- Sets of code points as the bits of numbers, checked against each other and against the tables:
what starts a name, what may stand in one, and this with the spacing marks. -/
structure NameSets where
  starts : Nat
  chars : Nat
  parts : Nat
  disjoint : chars &&& CharSet.spacingParts.bits = 0
  starts_mapping :
    CharSet.allMappings.all (fun m => starts.testBit m.1 == starts.testBit m.2.1) = true
  /-- With the spacing marks, a character may stand in a name exactly if its parts may. -/
  parts_mapping : CharSet.allMappings.all (fun m => parts.testBit m.1 ==
    (parts.testBit m.2.1 && (m.2.2 == 0 || parts.testBit m.2.2))) = true
  marks : CharSet.combiningClasses.all (fun range => bitWindow starts range.1 range.2.1 == 0) = true
  /-- All syllables of Hangul start names, and so do the letters that they are made of. -/
  syllables : bitWindow starts 0xAC00 0xD7A3 = 2 ^ (0xD7A3 + 1 - 0xAC00) - 1
  letters : bitWindow starts 0x1100 0x11FF = 2 ^ (0x11FF + 1 - 0x1100) - 1

def nameSets : NameSets where
  starts := CharSet.bits [(0x5F, 0x5F)] ||| CharSet.letters.bits
  chars := CharSet.bits [(0x5F, 0x5F)] ||| CharSet.letters.bits |||
    CharSet.decimalDigits.bits ||| CharSet.nonspacingMarks.bits
  parts := CharSet.bits [(0x5F, 0x5F)] ||| CharSet.letters.bits |||
    CharSet.decimalDigits.bits ||| CharSet.nonspacingMarks.bits ||| CharSet.spacingParts.bits
  disjoint := by decide +kernel
  starts_mapping := by decide +kernel
  parts_mapping := by decide +kernel
  marks := by decide +kernel
  syllables := by decide +kernel
  letters := by decide +kernel

private theorem testBit_starts (n : Nat) : nameSets.starts.testBit n = isNameStart n := by
  simp only [nameSets, Nat.testBit_or, CharSet.testBit_bits, isNameStart]

private theorem testBit_chars (n : Nat) : nameSets.chars.testBit n =
    (isNameStart n || CharSet.decimalDigits.has n || CharSet.nonspacingMarks.has n) := by
  simp only [nameSets, Nat.testBit_or, CharSet.testBit_bits, isNameStart]

private theorem testBit_parts (n : Nat) : nameSets.parts.testBit n = isNamePart n := by
  simp only [nameSets, Nat.testBit_or, CharSet.testBit_bits, isNamePart, isNameStart]

theorem isNameStart_toNat (c : Char) : isNameStart c.toNat = isIdentStart c := by
  have hunderscore : CharSet.has [(0x5F, 0x5F)] c.toNat = decide (c = '_') := by
    have hchar : c = '_' ↔ 0x5F ≤ c.toNat ∧ c.toNat ≤ 0x5F := by
      rw [← Char.toNat_inj, ← le_antisymm_iff, eq_comm]
      rfl
    simp only [CharSet.has, hchar, Bool.or_false, Bool.decide_and]
  rw [isNameStart, isIdentStart, hunderscore]

theorem isNamePart_toNat (c : Char) :
    isNamePart c.toNat = (isIdentChar c || CharSet.spacingParts.has c.toNat) := by
  rw [isNamePart, isNameStart_toNat, isIdentChar]

theorem isIdentChar_spacingPart {c : Char} (h : CharSet.spacingParts.has c.toNat = true) :
    isIdentChar c = false := by
  have hbit := congrArg (fun s => s.testBit c.toNat) nameSets.disjoint
  simp only [Nat.testBit_and, CharSet.testBit_bits, h, Bool.and_true, Nat.zero_testBit,
    testBit_chars, isNameStart_toNat] at hbit
  exact hbit

/-! ### Closure under the mappings -/

private theorem isNameStart_mapping :
    ∀ m ∈ CharSet.allMappings, isNameStart m.1 = isNameStart m.2.1 := by
  intro m hm
  have hsame := List.all_eq_true.mp nameSets.starts_mapping m hm
  simpa only [beq_iff_eq, testBit_starts] using hsame

private theorem isNamePart_mapping : ∀ m ∈ CharSet.allMappings,
    isNamePart m.1 = (isNamePart m.2.1 && (m.2.2 == 0 || isNamePart m.2.2)) := by
  intro m hm
  have hsame := List.all_eq_true.mp nameSets.parts_mapping m hm
  simp only [testBit_parts] at hsame
  exact beq_iff_eq.mp hsame

private theorem isNamePart_of_isNameStart {n : Nat} (h : isNameStart n = true) :
    isNamePart n = true := by
  simp [isNamePart, h]

private theorem isNameStart_of_bitWindow {lo hi n : Nat}
    (h : bitWindow nameSets.starts lo hi = 2 ^ (hi + 1 - lo) - 1) (hlo : lo ≤ n) (hhi : n ≤ hi) :
    isNameStart n = true := by
  rw [← testBit_starts]
  exact testBit_of_bitWindow_full h hlo hhi

namespace Normal

private theorem isNameStart_syllable {n : Nat} (hlow : syllableBase ≤ n)
    (hhigh : n < syllableBase + syllableCount) : isNameStart n = true := by
  apply isNameStart_of_bitWindow nameSets.syllables hlow
  simp only [syllableBase, syllableCount] at hhigh
  omega

private theorem isNameStart_letter {n : Nat} (h : (isLead n || isVowel n || isTail n) = true) :
    isNameStart n = true := by
  simp only [Bool.or_eq_true, isLead_iff, isVowel_iff, isTail_iff, leadBase, vowelBase, vowelCount,
    tailBase, tailCount] at h
  apply isNameStart_of_bitWindow nameSets.letters <;> omega

theorem combiningClass_of_isNameStart {n : Nat} (h : isNameStart n = true) :
    combiningClass n = 0 := by
  change ((CharSet.combiningClasses.find? fun range => range.1 ≤ n && n ≤ range.2.1).map
    (·.2.2)).getD 0 = 0
  cases hfind : CharSet.combiningClasses.find? fun range => range.1 ≤ n && n ≤ range.2.1 with
  | none => rfl
  | some range =>
    have hrange := List.find?_some hfind
    simp only [Bool.and_eq_true, decide_eq_true_eq] at hrange
    have hclear := beq_iff_eq.mp
      (List.all_eq_true.mp nameSets.marks range (List.mem_of_find?_eq_some hfind))
    rw [← testBit_starts, testBit_of_bitWindow_empty hclear hrange.1 hrange.2] at h
    cases h

theorem isNamePart_kept : Kept isNamePart where
  mapping := isNamePart_mapping
  syllable _ hlow hhigh := isNamePart_of_isNameStart (isNameStart_syllable hlow hhigh)
  letter _ h := isNamePart_of_isNameStart (isNameStart_letter h)

theorem isNameStart_leading : Leading isNameStart where
  mapping := isNameStart_mapping
  syllable _ hlow hhigh := isNameStart_syllable hlow hhigh
  lead _ h := isNameStart_letter (by simp [h])

end Normal

end Keywordless
