import Keywordless.Text.Bytes

/-!
# UTF-8

Reading characters out of byte texts. A byte that starts no well-formed encoding reads as the
replacement character and counts as one byte.
-/

namespace Keywordless.Utf8

def replacement : Char := '�'

private def isContinuation (b : UInt8) : Bool := 0x80 ≤ b && b ≤ 0xBF

private def payload (b : UInt8) : Nat := b.toNat % 64

/-- The allowed second bytes after a three-byte lead: no overlong forms and no surrogates. -/
private def isSecondOfThree (lead b : UInt8) : Bool :=
  isContinuation b && (lead != 0xE0 || 0xA0 ≤ b) && (lead != 0xED || b ≤ 0x9F)

/-- The allowed second bytes after a four-byte lead: no overlong forms, nothing above U+10FFFF. -/
private def isSecondOfFour (lead b : UInt8) : Bool :=
  isContinuation b && (lead != 0xF0 || 0x90 ≤ b) && (lead != 0xF4 || b ≤ 0x8F)

def decode? : Bytes → Option (Char × Nat)
  | [] => none
  | b0 :: rest =>
    if b0 < 0x80 then some (Char.ofNat b0.toNat, 1)
    else if 0xC2 ≤ b0 && b0 ≤ 0xDF then
      match rest with
      | b1 :: _ =>
        if isContinuation b1 then some (Char.ofNat (b0.toNat % 32 * 64 + payload b1), 2) else none
      | [] => none
    else if 0xE0 ≤ b0 && b0 ≤ 0xEF then
      match rest with
      | b1 :: b2 :: _ =>
        if isSecondOfThree b0 b1 && isContinuation b2 then
          some (Char.ofNat (b0.toNat % 16 * 4096 + payload b1 * 64 + payload b2), 3)
        else none
      | _ => none
    else if 0xF0 ≤ b0 && b0 ≤ 0xF4 then
      match rest with
      | b1 :: b2 :: b3 :: _ =>
        if isSecondOfFour b0 b1 && isContinuation b2 && isContinuation b3 then
          let high := b0.toNat % 8 * 262144 + payload b1 * 4096
          some (Char.ofNat (high + payload b2 * 64 + payload b3), 4)
        else none
      | _ => none
    else none

/-- The character at the front of a non-empty text and its size, with the replacement character
of size one where the encoding is malformed. -/
def decode (text : Bytes) : Char × Nat := (decode? text).getD (replacement, 1)

theorem decode?_size_pos {text : Bytes} {c : Char} {n : Nat} (h : decode? text = some (c, n)) :
    0 < n := by
  cases text with
  | nil => simp [decode?] at h
  | cons b rest =>
    simp only [decode?] at h
    grind

theorem decode_size_pos (text : Bytes) : 0 < (decode text).2 := by
  unfold decode
  cases h : decode? text with
  | none => simp
  | some step => exact decode?_size_pos (c := step.1) h

private theorem isContinuation_of_ascii {b : UInt8} (h : b < 0x80) : isContinuation b = false := by
  have hlow : ¬ 0x80 ≤ b := UInt8.not_le.mpr h
  simp [isContinuation, hlow]

theorem decode_append {text tail : Bytes} (htext : text ≠ [])
    (htail : ∀ b ∈ tail.head?, b < 0x80) : decode (text ++ tail) = decode text := by
  cases tail with
  | nil => rw [List.append_nil]
  | cons b rest =>
    have hb : isContinuation b = false := isContinuation_of_ascii (htail b rfl)
    match text, htext with
    | [b0], _ =>
      match rest with
      | [] => simp [decode, decode?, hb]
      | [_] => simp [decode, decode?, isSecondOfThree, hb]
      | _ :: _ :: _ => simp [decode, decode?, isSecondOfThree, isSecondOfFour, hb]
    | [b0, b1], _ =>
      cases rest <;> simp [decode, decode?, hb]
    | [b0, b1, b2], _ => simp [decode, decode?, hb]
    | b0 :: b1 :: b2 :: b3 :: more, _ => rfl

def pieces : Bytes → List (Char × Bytes)
  | [] => []
  | b :: rest =>
    let step := decode (b :: rest)
    (step.1, (b :: rest).take step.2) :: pieces ((b :: rest).drop step.2)
termination_by text => text.length
decreasing_by
  have := decode_size_pos (b :: rest)
  simp only [List.length_drop, List.length_cons]
  omega

def chars (text : Bytes) : List Char := (pieces text).map Prod.fst

def isValid (text : Bytes) : Bool :=
  (pieces text).all fun piece => (decode? piece.2).isSome

def encode (c : Char) : Bytes := String.utf8EncodeChar c

def encodeAll (cs : List Char) : Bytes := cs.flatMap encode

/-! ### Characters outside ASCII -/

private theorem isContinuation_iff {b : UInt8} :
    isContinuation b = true ↔ 0x80 ≤ b.toNat ∧ b.toNat ≤ 0xBF := by
  simp [isContinuation, UInt8.le_iff_toNat_le]

private theorem isSecondOfThree_iff {lead b : UInt8} :
    isSecondOfThree lead b = true ↔ (0x80 ≤ b.toNat ∧ b.toNat ≤ 0xBF) ∧
      (lead.toNat = 0xE0 → 0xA0 ≤ b.toNat) ∧ (lead.toNat = 0xED → b.toNat ≤ 0x9F) := by
  simp only [isSecondOfThree, Bool.and_eq_true, isContinuation_iff, and_assoc, Bool.or_eq_true,
    bne_iff_ne, ne_eq, ← UInt8.toNat_inj, decide_eq_true_eq, UInt8.le_iff_toNat_le,
    Decidable.imp_iff_not_or]
  rfl

private theorem isSecondOfFour_iff {lead b : UInt8} :
    isSecondOfFour lead b = true ↔ (0x80 ≤ b.toNat ∧ b.toNat ≤ 0xBF) ∧
      (lead.toNat = 0xF0 → 0x90 ≤ b.toNat) ∧ (lead.toNat = 0xF4 → b.toNat ≤ 0x8F) := by
  simp only [isSecondOfFour, Bool.and_eq_true, isContinuation_iff, and_assoc, Bool.or_eq_true,
    bne_iff_ne, ne_eq, ← UInt8.toNat_inj, decide_eq_true_eq, UInt8.le_iff_toNat_le,
    Decidable.imp_iff_not_or]
  rfl

private theorem le_toNat_ofNat {n : Nat} (hlow : 0x80 ≤ n)
    (hvalid : n < 0xD800 ∨ 0xDFFF < n ∧ n < 0x110000) : 0x80 ≤ (Char.ofNat n).toNat := by
  have hofNat : (Char.ofNat n).toNat = n := by
    rw [Char.ofNat, dif_pos hvalid]
    rfl
  rwa [hofNat]

theorem decode?_foreign {b : UInt8} {rest : Bytes} {c : Char} {n : Nat} (hb : 0x80 ≤ b)
    (h : decode? (b :: rest) = some (c, n)) : 0x80 ≤ c.toNat := by
  have hascii : ¬ b < 0x80 := UInt8.not_lt.mpr hb
  simp only [decode?, hascii, if_false, Bool.and_eq_true, decide_eq_true_eq,
    UInt8.le_iff_toNat_le, UInt8.reduceToNat] at h
  split at h
  · split at h
    · split at h
      · simp only [payload] at h
        obtain ⟨rfl, -⟩ := Prod.mk.inj (Option.some.inj h)
        apply le_toNat_ofNat <;> omega
      · cases h
    · cases h
  split at h
  · split at h
    · split at h
      · next b1 b2 _ hbytes =>
        have hsecond := isSecondOfThree_iff.mp hbytes.1
        simp only [payload] at h
        obtain ⟨rfl, -⟩ := Prod.mk.inj (Option.some.inj h)
        apply le_toNat_ofNat <;> omega
      · cases h
    · cases h
  split at h
  · split at h
    · split at h
      · next b1 b2 b3 _ hbytes =>
        have hsecond := isSecondOfFour_iff.mp hbytes.1.1
        simp only [payload] at h
        obtain ⟨rfl, -⟩ := Prod.mk.inj (Option.some.inj h)
        apply le_toNat_ofNat <;> omega
      · cases h
    · cases h
  · cases h

@[simp] theorem chars_nil : chars [] = [] := by simp [chars, pieces]

theorem chars_cons (b : UInt8) (rest : Bytes) :
    chars (b :: rest) =
      (decode (b :: rest)).1 :: chars ((b :: rest).drop (decode (b :: rest)).2) := by
  simp [chars, pieces]

end Keywordless.Utf8
