import Keywordless.Text.Normal
import Mathlib

/-!
# Canonical forms

The canonical form of a text has every character in its parts, and the marks after each base in
order. Two texts are equivalent if they have one canonical form.

A property that a code point has exactly if all its parts have it holds throughout a text exactly if
it holds throughout the canonical form. A property that a code point shares with its first part is
kept by the first code point of a text, as long as it is one of bases alone: marks are put into
order, but never before a base.
-/

namespace Keywordless

namespace CharSet

def laterMappings : List Mapping := [
  (0x105C9, 0x105D2, 0x307), (0x105E4, 0x105DA, 0x307), (0x11383, 0x11382, 0x113C9),
  (0x11385, 0x11384, 0x113BB), (0x1138E, 0x1138B, 0x113C2), (0x11391, 0x11390, 0x113C9),
  (0x113C5, 0x113C2, 0x113C2), (0x113C7, 0x113C2, 0x113B8), (0x113C8, 0x113C2, 0x113C9),
  (0x16121, 0x1611E, 0x1611E), (0x16122, 0x1611E, 0x16129), (0x16123, 0x1611E, 0x1611F),
  (0x16124, 0x16129, 0x1611F), (0x16125, 0x1611E, 0x16120), (0x16126, 0x16121, 0x1611F),
  (0x16127, 0x16122, 0x1611F), (0x16128, 0x16121, 0x16120), (0x16D68, 0x16D67, 0x16D67),
  (0x16D69, 0x16D63, 0x16D67), (0x16D6A, 0x16D69, 0x16D67)]

/-- The canonical mappings of the version of Unicode that the letters and marks are of, 17.0. -/
def allMappings : List Mapping := laterMappings ++ mappings

end CharSet

namespace Normal

/-- The canonical form of a text, where `classOf` gives the combining classes. -/
def canonicalForm (classOf : Nat → Nat) (text : Bytes) : List Nat :=
  (order classOf []
    (((Utf8.chars text).map Char.toNat).flatMap (decompose CharSet.allMappings))).map (·.2)

/-- A property that a code point has exactly if all its parts have it. The letters and syllables of
Hangul have it. -/
structure Kept (p : Nat → Bool) : Prop where
  mapping : ∀ m ∈ CharSet.allMappings, p m.1 = (p m.2.1 && (m.2.2 == 0 || p m.2.2))
  syllable : ∀ n, syllableBase ≤ n → n < syllableBase + syllableCount → p n = true
  letter : ∀ n, (isLead n || isVowel n || isTail n) = true → p n = true

/-- A property that a code point shares with its first part. -/
structure Leading (q : Nat → Bool) : Prop where
  mapping : ∀ m ∈ CharSet.allMappings, q m.1 = q m.2.1
  syllable : ∀ n, syllableBase ≤ n → n < syllableBase + syllableCount → q n = true
  lead : ∀ n, isLead n = true → q n = true

variable {p q : Nat → Bool} {classOf : Nat → Nat}

/-! ### Decomposition -/

theorem isLead_iff {n : Nat} : isLead n = true ↔ leadBase ≤ n ∧ n < leadBase + 19 := by
  simp [isLead]

theorem isVowel_iff {n : Nat} :
    isVowel n = true ↔ vowelBase ≤ n ∧ n < vowelBase + vowelCount := by
  simp [isVowel]

theorem isTail_iff {n : Nat} : isTail n = true ↔ tailBase < n ∧ n < tailBase + tailCount := by
  simp [isTail]

private theorem mapping?_eq_some {mappings : List CharSet.Mapping} {n : Nat} {parts : List Nat}
    (h : mapping? mappings n = some parts) :
    ∃ m ∈ mappings, m.1 = n ∧ parts = if m.2.2 = 0 then [m.2.1] else [m.2.1, m.2.2] := by
  obtain ⟨m, hfind, hparts⟩ := Option.map_eq_some_iff.mp h
  have hn : m.1 = n := by simpa using List.find?_some hfind
  exact ⟨m, List.mem_of_find?_eq_some hfind, hn, hparts.symm⟩

private theorem syllableLetters?_eq_some {n : Nat} {letters : List Nat}
    (h : syllableLetters? n = some letters) :
    (syllableBase ≤ n ∧ n < syllableBase + syllableCount) ∧
      ∃ lead more, letters = lead :: more ∧ isLead lead = true ∧
        ∀ x ∈ more, (isVowel x || isTail x) = true := by
  unfold syllableLetters? at h
  split at h
  · next hrange =>
    have hbounds : syllableBase ≤ n ∧ n < syllableBase + syllableCount := by simpa using hrange
    have hlead : isLead (leadBase + (n - syllableBase) / (vowelCount * tailCount)) = true := by
      rw [isLead_iff]
      simp only [leadBase, syllableBase, syllableCount, vowelCount, tailCount] at hbounds ⊢
      omega
    have hvowel : isVowel
        (vowelBase + (n - syllableBase) % (vowelCount * tailCount) / tailCount) = true := by
      rw [isVowel_iff]
      simp only [vowelBase, syllableBase, vowelCount, tailCount]
      omega
    refine ⟨hbounds, ?_⟩
    rw [← Option.some.inj h]
    by_cases hopen : (n - syllableBase) % tailCount = 0
    · rw [if_pos hopen]
      exact ⟨_, _, rfl, hlead, by simp [hvowel]⟩
    · have htail : isTail (tailBase + (n - syllableBase) % tailCount) = true := by
        rw [isTail_iff]
        simp only [tailBase, syllableBase, tailCount] at hopen ⊢
        omega
      rw [if_neg hopen]
      exact ⟨_, _, rfl, hlead, by simp [hvowel, htail]⟩
  · cases h

private theorem Kept.expand (h : Kept p) (depth n : Nat) :
    (expand CharSet.allMappings depth n).all p = p n := by
  induction depth generalizing n with
  | zero => simp [Normal.expand]
  | succ depth ih =>
    rw [Normal.expand]
    cases hmapping : mapping? CharSet.allMappings n with
    | none => simp
    | some parts =>
      obtain ⟨m, hm, rfl, rfl⟩ := mapping?_eq_some hmapping
      rw [h.mapping m hm]
      by_cases hsingle : m.2.2 = 0
      · simp [hsingle, ih]
      · have hsecond : (m.2.2 == 0) = false := by simpa using hsingle
        simp [hsingle, hsecond, ih]

private theorem Kept.decompose (h : Kept p) (n : Nat) :
    (decompose CharSet.allMappings n).all p = p n := by
  unfold Normal.decompose
  cases hletters : syllableLetters? n with
  | none => exact h.expand _ n
  | some letters =>
    obtain ⟨⟨hlow, hhigh⟩, lead, more, rfl, hlead, hmore⟩ := syllableLetters?_eq_some hletters
    rw [h.syllable n hlow hhigh, Option.getD_some, List.all_eq_true]
    intro x hx
    apply h.letter x
    rcases List.mem_cons.mp hx with rfl | hx
    · simp [hlead]
    · simpa [Bool.or_assoc] using .inr (by simpa using hmore x hx)

private theorem Leading.expand (h : Leading q) (depth n : Nat) :
    ∃ first more, expand CharSet.allMappings depth n = first :: more ∧ q first = q n := by
  induction depth generalizing n with
  | zero => exact ⟨n, [], rfl, rfl⟩
  | succ depth ih =>
    rw [Normal.expand]
    cases hmapping : mapping? CharSet.allMappings n with
    | none => exact ⟨n, [], rfl, rfl⟩
    | some parts =>
      obtain ⟨m, hm, rfl, rfl⟩ := mapping?_eq_some hmapping
      obtain ⟨first, more, hfirst, hq⟩ := ih m.2.1
      rw [h.mapping m hm, ← hq]
      by_cases hsingle : m.2.2 = 0 <;> simp [hsingle, hfirst]

private theorem Leading.decompose (h : Leading q) (n : Nat) :
    ∃ first more, decompose CharSet.allMappings n = first :: more ∧ q first = q n := by
  unfold Normal.decompose
  cases hletters : syllableLetters? n with
  | none => exact h.expand _ n
  | some letters =>
    obtain ⟨⟨hlow, hhigh⟩, lead, more, rfl, hlead, -⟩ := syllableLetters?_eq_some hletters
    exact ⟨lead, more, rfl, by rw [h.lead lead hlead, h.syllable n hlow hhigh]⟩

/-! ### Canonical order -/

private theorem insertMark_perm (cls n : Nat) (collected : List (Nat × Nat)) :
    (insertMark cls n collected).Perm ((cls, n) :: collected) := by
  induction collected with
  | nil => exact .refl _
  | cons c rest ih =>
    rw [insertMark]
    split
    · exact (ih.cons c).trans (.swap _ _ _)
    · exact .refl _

private theorem order_perm (collected : List (Nat × Nat)) (text : List Nat) :
    (order classOf collected text).Perm (collected ++ text.map fun n => (classOf n, n)) := by
  induction text generalizing collected with
  | nil => simp [order]
  | cons n rest ih =>
    rw [order, List.map_cons]
    refine (ih _).trans (.trans ?_ List.perm_middle.symm)
    rw [← List.cons_append]
    refine List.Perm.append_right _ ?_
    split
    · next hcls => rw [hcls]
    · exact insertMark_perm _ _ _

private theorem insertMark_getLast? {cls : Nat} (hcls : cls ≠ 0) (n : Nat)
    {collected : List (Nat × Nat)} {last : Nat × Nat} (h : collected.getLast? = some last) :
    ∃ last', (insertMark cls n collected).getLast? = some last' ∧
      (last.1 = 0 → last' = last) ∧ (last.1 ≠ 0 → last'.1 ≠ 0) := by
  induction collected with
  | nil => cases h
  | cons c rest ih =>
    rw [insertMark]
    split
    · next hlt =>
      cases rest with
      | nil =>
        obtain rfl : c = last := by simpa using h
        exact ⟨(cls, n), rfl, fun h0 => by omega, fun _ => hcls⟩
      | cons d rest =>
        obtain ⟨last', hlast', hkept⟩ := ih (by simpa using h)
        refine ⟨last', ?_, hkept⟩
        rw [List.getLast?_cons, hlast']
        rfl
    · exact ⟨last, by simpa using h, fun _ => rfl, id⟩

/-- Nothing is put before a base that comes first, and no base before a mark that does. -/
theorem order_head? {collected : List (Nat × Nat)} {last : Nat × Nat}
    (h : collected.getLast? = some last) (text : List Nat) :
    ∃ first, (order classOf collected text).head? = some first ∧
      (last.1 = 0 → first = last) ∧ (last.1 ≠ 0 → first.1 ≠ 0) := by
  induction text generalizing collected last with
  | nil => exact ⟨last, by simpa [order] using h, fun _ => rfl, id⟩
  | cons n rest ih =>
    rw [order]
    by_cases hcls : classOf n = 0
    · have hpush : ((0, n) :: collected).getLast? = some last := by
        rw [List.getLast?_cons, h]
        rfl
      simpa [hcls] using ih hpush
    · obtain ⟨last', hlast', hzero, hmark⟩ := insertMark_getLast? hcls n h
      obtain ⟨first, hfirst, hzero', hmark'⟩ := ih hlast'
      refine ⟨first, by simpa [hcls] using hfirst, ?_, ?_⟩
      · intro h0
        have hsame := hzero h0
        rw [hsame] at hzero'
        exact hzero' h0
      · intro h0
        exact hmark' (hmark h0)

/-! ### Texts -/

theorem Kept.canonicalForm (h : Kept p) (classOf : Nat → Nat) (text : Bytes) :
    (canonicalForm classOf text).all p = (Utf8.chars text).all fun c => p c.toNat := by
  have hparts (codes : List Nat) :
      (codes.flatMap (Normal.decompose CharSet.allMappings)).all p = codes.all p := by
    induction codes with
    | nil => rfl
    | cons n codes ih => rw [List.flatMap_cons, List.all_append, h.decompose, ih, List.all_cons]
  rw [Normal.canonicalForm, List.all_map, (order_perm [] _).all_eq, List.nil_append, List.all_map]
  refine (hparts _).trans ?_
  rw [List.all_map]
  rfl

/-- What comes first among the parts of a text decides whether its canonical form starts with a base
that has the property. -/
theorem Leading.canonicalForm (h : Leading q) (hbase : ∀ n, q n = true → classOf n = 0)
    (text : Bytes) :
    (canonicalForm classOf text).head?.map q = (Utf8.chars text).head?.map fun c => q c.toNat := by
  unfold Normal.canonicalForm
  cases Utf8.chars text with
  | nil => rfl
  | cons c rest =>
    obtain ⟨a, parts, hparts, ha⟩ := h.decompose c.toNat
    rw [List.map_cons, List.flatMap_cons, hparts, List.cons_append, List.head?_cons,
      Option.map_some, ← ha]
    generalize parts ++ _ = more
    have hstart : order classOf [] (a :: more) = order classOf [(classOf a, a)] more := by
      rw [order]
      by_cases hclass : classOf a = 0 <;> simp [hclass, insertMark]
    have hlast : [(classOf a, a)].getLast? = some (classOf a, a) := rfl
    obtain ⟨d, hd, hkept, hmark⟩ := order_head? hlast more
    rw [hstart, List.head?_map, hd, Option.map_some, Option.map_some]
    by_cases hclass : classOf a = 0
    · rw [hkept hclass]
    · -- both are marks, and no mark has the property
      have hnot (n : Nat) (hn : classOf n ≠ 0) : q n = false := by
        cases hq : q n with
        | false => rfl
        | true => exact absurd (hbase n hq) hn
      have hmem := (order_perm _ _).mem_iff.mp (List.mem_of_mem_head? hd)
      have hclass' : d.1 = classOf d.2 := by
        simp only [List.mem_append, List.mem_singleton, List.mem_map] at hmem
        rcases hmem with rfl | ⟨n, -, rfl⟩ <;> rfl
      rw [hnot a hclass, hnot d.2 (hclass' ▸ hmark hclass)]

end Normal

end Keywordless
