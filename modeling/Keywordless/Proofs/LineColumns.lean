import Keywordless.Proofs.FilePlaces
import Keywordless.Source.File
import Mathlib

/-!
# Offsets, lines and columns

An offset and its line and column say the same: the line is counted by the newlines before the
offset, and the column is how far the offset lies behind the start of that line. Both are 32-bit
words that count from one, so that the last offset of a file of `2 ^ 32 - 1` bytes has column zero
when the file is one line, and line zero when it is nothing but newlines.
-/

namespace Keywordless

namespace Bytes

variable (sep : UInt8)

private theorem splitOnByte_cons_self (rest : Bytes) :
    splitOnByte sep (sep :: rest) = [] :: splitOnByte sep rest :=
  splitOnByte_append sep [] rest

private theorem splitOnByte_cons_of_ne {sep b : UInt8} {rest piece : Bytes} {pieces : List Bytes}
    (hb : b ≠ sep) (h : splitOnByte sep rest = piece :: pieces) :
    splitOnByte sep (b :: rest) = (b :: piece) :: pieces := by
  simp [splitOnByte, h, hb]

/-- A text and its pieces: there is one more of them than separators, they join to the text, with
their separators they fill it, and the first ends at the first separator. -/
structure Split (text : Bytes) (pieces : List Bytes) : Prop where
  length : pieces.length = text.count sep + 1
  join : Bytes.join [sep] pieces = text
  sizes : (pieces.map (·.length + 1)).sum = text.length + 1
  head : pieces.head? = some (text.takeWhile (· != sep))

private theorem splitOnByte_split (text : Bytes) : Split sep text (splitOnByte sep text) := by
  induction text with
  | nil => exact ⟨rfl, rfl, rfl, rfl⟩
  | cons b rest ih =>
    obtain ⟨hlength, hjoin, hsizes, hhead⟩ := ih
    obtain ⟨piece, pieces, hrest⟩ := List.exists_cons_of_ne_nil (splitOnByte_ne_nil sep rest)
    by_cases hb : b = sep
    · subst hb
      rw [splitOnByte_cons_self]
      refine ⟨by simp [hlength], ?_, ?_, by simp⟩
      · rw [hrest] at hjoin ⊢
        rw [join_cons_cons, hjoin]
        rfl
      · rw [List.map_cons, List.sum_cons, hsizes]
        simp only [List.length_nil, List.length_cons]
        omega
    · rw [splitOnByte_cons_of_ne hb hrest]
      rw [hrest] at hlength hjoin hsizes hhead
      refine ⟨by simpa [List.count_cons, hb] using hlength, ?_, ?_, ?_⟩
      · cases pieces with
        | nil => simpa [Bytes.join] using hjoin
        | cons next more =>
          rw [join_cons_cons] at hjoin ⊢
          rw [← hjoin]
          simp
      · simp only [List.map_cons, List.sum_cons, List.length_cons] at hsizes ⊢
        omega
      · simpa [hb] using hhead

end Bytes

/-! ### Newlines before an offset -/

private theorem newlineOffsets_append (start : Nat) (text more : Bytes) :
    newlineOffsets start (text ++ more) =
      newlineOffsets start text ++ newlineOffsets (start + text.length) more := by
  induction text generalizing start with
  | nil => simp [newlineOffsets]
  | cons b rest ih =>
    have hnext : start + 1 + rest.length = start + (rest.length + 1) := by omega
    by_cases hb : b = Bytes.newline <;> simp [newlineOffsets, hb, ih, hnext]

private theorem newlineOffsets_of_notMem {text : Bytes} (h : Bytes.newline ∉ text) (start : Nat) :
    newlineOffsets start text = [] := by
  induction text generalizing start with
  | nil => rfl
  | cons b rest ih =>
    obtain ⟨hb, hrest⟩ : Bytes.newline ≠ b ∧ Bytes.newline ∉ rest := by simpa using h
    simp [newlineOffsets, ih hrest, Ne.symm hb]

private theorem length_newlineOffsets (start : Nat) (text : Bytes) :
    (newlineOffsets start text).length = text.count Bytes.newline := by
  induction text generalizing start with
  | nil => rfl
  | cons b rest ih => by_cases hb : b = Bytes.newline <;> simp [newlineOffsets, hb, ih]

private theorem mem_newlineOffsets {start n : Nat} {text : Bytes}
    (h : n ∈ newlineOffsets start text) : start ≤ n ∧ n < start + text.length := by
  induction text generalizing start with
  | nil => simp [newlineOffsets] at h
  | cons b rest ih =>
    have hrest (hmem : n ∈ newlineOffsets (start + 1) rest) :
        start ≤ n ∧ n < start + (b :: rest).length := by
      have hbounds := ih hmem
      simp only [List.length_cons]
      omega
    by_cases hb : b = Bytes.newline
    · simp only [newlineOffsets, hb, beq_self_eq_true, if_true, List.mem_cons] at h
      rcases h with rfl | hmem
      · simp
      · exact hrest hmem
    · exact hrest (by simpa [newlineOffsets, hb] using h)

namespace SourceFile

variable (f : SourceFile)

private theorem newlines_takeWhile (offset : Nat) :
    f.newlines.takeWhile (· < offset) = newlineOffsets 0 (f.content.take offset) := by
  have hbefore : ∀ n ∈ newlineOffsets 0 (f.content.take offset), decide (n < offset) = true := by
    intro n hn
    have hbounds := mem_newlineOffsets hn
    have hlength := List.length_take_le offset f.content
    simp only [decide_eq_true_eq]
    omega
  by_cases hle : offset ≤ f.content.length
  · have hlength : (f.content.take offset).length = offset := List.length_take_of_le hle
    have hbehind : (newlineOffsets offset (f.content.drop offset)).takeWhile (· < offset) = [] := by
      rw [List.takeWhile_eq_nil_iff]
      intro hpos
      have hbounds := mem_newlineOffsets (List.getElem_mem hpos)
      simp only [List.get_eq_getElem, decide_eq_true_eq]
      omega
    conv_lhs => rw [newlines, ← List.take_append_drop offset f.content, newlineOffsets_append]
    rw [hlength, Nat.zero_add, List.takeWhile_append_of_pos hbefore, hbehind, List.append_nil]
  · rw [List.take_of_length_le (by omega)] at hbefore ⊢
    rwa [newlines, List.takeWhile_eq_self_iff]

def lineStart (number : Nat) : Nat :=
  ((List.range (number - 1)).map fun i => (f.line (i + 1)).length + 1).sum

/-- The lines of a file, from the first to the one after the last newline. They are asked for by
32-bit numbers. -/
def lines : List Bytes :=
  (List.range (f.content.count Bytes.newline + 1)).map fun i => f.line ((i + 1) % offsetLimit)

private theorem line_succ (i : Nat) :
    f.line (i + 1) = ((Bytes.splitOnByte Bytes.newline f.content)[i]?).getD [] := by
  simp [line]

/-! ### The line of an offset -/

/-- The text before an offset: whole lines, and the part of the offset's own line before it. -/
structure Cut (offset : Nat) (whole own : Bytes) : Prop where
  take : f.content.take offset = whole ++ own
  own : Bytes.newline ∉ own
  whole : whole = [] ∨ ∃ lines, whole = lines ++ [Bytes.newline]

private theorem exists_cut (text : Bytes) :
    ∃ whole own, text = whole ++ own ∧ Bytes.newline ∉ own ∧
      (whole = [] ∨ ∃ lines, whole = lines ++ [Bytes.newline]) := by
  induction text using List.reverseRecOn with
  | nil => exact ⟨[], [], rfl, by simp, .inl rfl⟩
  | append_singleton text b ih =>
    by_cases hb : b = Bytes.newline
    · subst hb
      exact ⟨text ++ [Bytes.newline], [], by simp, by simp, .inr ⟨text, rfl⟩⟩
    · obtain ⟨whole, own, htext, hown, hwhole⟩ := ih
      refine ⟨whole, own ++ [b], by simp [htext], ?_, hwhole⟩
      simpa [hown] using Ne.symm hb

theorem cut (offset : Nat) : ∃ whole own, f.Cut offset whole own := by
  obtain ⟨whole, own, htake, hown, hwhole⟩ := exists_cut (f.content.take offset)
  exact ⟨whole, own, htake, hown, hwhole⟩

variable {f} {offset : Nat} {whole own : Bytes}

namespace Cut

theorem count (h : f.Cut offset whole own) :
    (f.content.take offset).count Bytes.newline = whole.count Bytes.newline := by
  rw [h.take, List.count_append, List.count_eq_zero_of_not_mem h.own, Nat.add_zero]

theorem length (h : f.Cut offset whole own) (hle : offset ≤ f.content.length) :
    whole.length + own.length = offset := by
  rw [← List.length_append, ← h.take]
  exact List.length_take_of_le hle

private theorem content (h : f.Cut offset whole own) :
    f.content = whole ++ (own ++ f.content.drop offset) := by
  rw [← List.append_assoc, ← h.take, List.take_append_drop]

theorem position_from_start (h : f.Cut offset whole own) :
    f.position offset =
      ⟨(whole.count Bytes.newline + 1) % offsetLimit,
        (offset - whole.length + 1) % offsetLimit⟩ := by
  have hbefore : f.newlines.takeWhile (· < offset) = newlineOffsets 0 whole := by
    rw [f.newlines_takeWhile, h.take, newlineOffsets_append, newlineOffsets_of_notMem h.own,
      List.append_nil]
  have hstart : ((newlineOffsets 0 whole).getLast?.map (· + 1)).getD 0 = whole.length := by
    rcases h.whole with rfl | ⟨lines, rfl⟩
    · rfl
    · simp [newlineOffsets_append, newlineOffsets]
  simp only [SourceFile.position, hbefore, hstart, length_newlineOffsets]

theorem position (h : f.Cut offset whole own) (hle : offset ≤ f.content.length) :
    f.position offset =
      ⟨(whole.count Bytes.newline + 1) % offsetLimit, (own.length + 1) % offsetLimit⟩ := by
  have hlength := h.length hle
  have hcolumn : offset - whole.length = own.length := by omega
  rw [h.position_from_start, hcolumn]

private theorem split (h : f.Cut offset whole own) :
    ∃ before, Bytes.splitOnByte Bytes.newline f.content =
        before ++ Bytes.splitOnByte Bytes.newline (own ++ f.content.drop offset) ∧
      before.length = whole.count Bytes.newline ∧
      (before.map (·.length + 1)).sum = whole.length := by
  rcases h.whole with rfl | ⟨lines, rfl⟩
  · refine ⟨[], ?_, rfl, rfl⟩
    conv_lhs => rw [h.content]
    rfl
  · obtain ⟨hlength, -, hsizes, -⟩ := Bytes.splitOnByte_split Bytes.newline lines
    refine ⟨Bytes.splitOnByte Bytes.newline lines, ?_, by simp [hlength], by simp [hsizes]⟩
    conv_lhs => rw [h.content, List.append_assoc]
    exact Bytes.splitOnByte_append _ _ _

theorem line (h : f.Cut offset whole own) :
    f.line (whole.count Bytes.newline + 1) =
      own ++ (f.content.drop offset).takeWhile (· != Bytes.newline) := by
  obtain ⟨before, hsplit, hlength, -⟩ := h.split
  have hhead := (Bytes.splitOnByte_split Bytes.newline (own ++ f.content.drop offset)).head
  have hown : ∀ b ∈ own, (b != Bytes.newline) = true := by
    intro b hb
    simp only [bne_iff_ne]
    rintro rfl
    exact h.own hb
  rw [List.takeWhile_append_of_pos hown] at hhead
  rw [line_succ, hsplit, ← hlength, List.getElem?_append_right (Nat.le_refl _), Nat.sub_self,
    ← List.head?_eq_getElem?, hhead, Option.getD_some]

theorem lineStart (h : f.Cut offset whole own) :
    f.lineStart (whole.count Bytes.newline + 1) = whole.length := by
  obtain ⟨before, hsplit, hlength, hsizes⟩ := h.split
  have hlines : (List.range (whole.count Bytes.newline)).map
      (fun i => (f.line (i + 1)).length + 1) = before.map (·.length + 1) := by
    apply List.ext_getElem
    · simp [hlength]
    · intro i hi hi'
      have hbefore : i < before.length := by simpa using hi'
      simp [line_succ, hsplit, List.getElem?_append_left hbefore, List.getElem?_eq_getElem hbefore]
  rw [SourceFile.lineStart, Nat.add_sub_cancel, hlines, hsizes]

end Cut

/-! ### Words that run out -/

variable (f)

/-- The end of `2 ^ 32 - 1` bytes on one line, where the column would be `2 ^ 32`. -/
def ColumnWraps (offset : Nat) : Prop :=
  offset = offsetLimit - 1 ∧ Bytes.newline ∉ f.content

/-- The end of `2 ^ 32 - 1` newlines, where the line would be the one with number `2 ^ 32`. -/
def LineWraps (offset : Nat) : Prop :=
  offset = offsetLimit - 1 ∧ ∀ b ∈ f.content, b = Bytes.newline

instance (offset : Nat) : Decidable (f.ColumnWraps offset) := inferInstanceAs (Decidable (_ ∧ _))

instance (offset : Nat) : Decidable (f.LineWraps offset) := inferInstanceAs (Decidable (_ ∧ _))

variable {f}

namespace Cut

theorem columnWraps_iff (h : f.Cut offset whole own) (hle : offset ≤ f.content.length)
    (hfile : f.content.length < offsetLimit) :
    f.ColumnWraps offset ↔ own.length + 1 = offsetLimit := by
  have hlength := h.length hle
  constructor
  · rintro ⟨hoffset, hnone⟩
    have hwhole : whole = [] := by
      rcases h.whole with hnil | ⟨lines, hlines⟩
      · exact hnil
      · rw [h.content, hlines] at hnone
        simp at hnone
    rw [hwhole, List.length_nil] at hlength
    omega
  · intro hown
    have hoffset : offset = f.content.length := by omega
    have hwhole : whole = [] := List.length_eq_zero_iff.mp (by omega)
    have hcontent : f.content = own := by
      have htake := h.take
      rwa [hoffset, List.take_length, hwhole, List.nil_append] at htake
    exact ⟨by omega, hcontent ▸ h.own⟩

private theorem lineWraps_iff (h : f.Cut offset whole own) (hle : offset ≤ f.content.length)
    (hfile : f.content.length < offsetLimit) :
    f.LineWraps offset ↔ whole.count Bytes.newline + 1 = offsetLimit := by
  have hlength := h.length hle
  have hcount : whole.count Bytes.newline ≤ whole.length := List.count_le_length
  constructor
  · rintro ⟨hoffset, hall⟩
    have hown : own = [] := by
      by_contra hne
      obtain ⟨b, hb⟩ := List.exists_mem_of_ne_nil own hne
      have hnewline : b = Bytes.newline := hall b (by rw [h.content]; simp [hb])
      exact h.own (hnewline ▸ hb)
    have hfull : whole.count Bytes.newline = whole.length := by
      rw [List.count_eq_length]
      intro b hb
      exact (hall b (by rw [h.content]; simp [hb])).symm
    rw [hown, List.length_nil] at hlength
    omega
  · intro hlast
    have hoffset : offset = f.content.length := by omega
    have hown : own = [] := List.length_eq_zero_iff.mp (by omega)
    have hcontent : f.content = whole := by
      have htake := h.take
      rwa [hoffset, List.take_length, hown, List.append_nil] at htake
    have hfull : whole.count Bytes.newline = whole.length := by omega
    refine ⟨by omega, fun b hb => ?_⟩
    rw [hcontent] at hb
    exact (List.count_eq_length.mp hfull b hb).symm

private theorem count_lt (h : f.Cut offset whole own) (hle : offset ≤ f.content.length)
    (hfile : f.content.length < offsetLimit) :
    whole.count Bytes.newline < offsetLimit := by
  have hlength := h.length hle
  have hcount : whole.count Bytes.newline ≤ whole.length := List.count_le_length
  omega

end Cut

/-- As many newlines as a file can hold leave nothing for the line behind them. -/
theorem line_offsetLimit (hfile : f.content.length < offsetLimit)
    (hcount : offsetLimit ≤ f.content.count Bytes.newline + 1) : f.line offsetLimit = [] := by
  obtain ⟨whole, own, h⟩ := f.cut f.content.length
  have hlength := h.length (Nat.le_refl _)
  have hwhole : f.content.count Bytes.newline = whole.count Bytes.newline := by
    rw [← h.count, List.take_length]
  have hle : whole.count Bytes.newline ≤ whole.length := List.count_le_length
  have hown : own = [] := List.length_eq_zero_iff.mp (by omega)
  have hnumber : offsetLimit = whole.count Bytes.newline + 1 := by omega
  rw [hnumber, h.line, hown, List.drop_length]
  rfl

private theorem lines_eq_splitOnByte (hfile : f.content.length < offsetLimit) :
    f.lines = Bytes.splitOnByte Bytes.newline f.content := by
  have hlength := (Bytes.splitOnByte_split Bytes.newline f.content).length
  have hle : f.content.count Bytes.newline ≤ f.content.length := List.count_le_length
  apply List.ext_getElem
  · simp [lines, hlength]
  · intro i hi hi'
    have hline : f.line ((i + 1) % offsetLimit) = f.line (i + 1) := by
      by_cases hlast : i + 1 = offsetLimit
      · -- Number zero stands for the line that has none: both are empty.
        rw [hlast, Nat.mod_self, line_offsetLimit hfile (by omega)]
        rfl
      · rw [Nat.mod_eq_of_lt (by omega)]
    simp [lines, hline, line_succ, List.getElem?_eq_getElem hi']

end SourceFile

/-! ### Positions -/

namespace LineCol

def Before (p q : LineCol) : Prop := p.line < q.line ∨ p.line = q.line ∧ p.col < q.col

def index (p : LineCol) : Nat := (p.col + (offsetLimit - 1)) % offsetLimit

private theorem index_mk (line : Nat) {n : Nat} (h : n < offsetLimit) :
    index ⟨line, (n + 1) % offsetLimit⟩ = n := by
  have hpos : 0 < offsetLimit := by decide
  have hsum : n + 1 + (offsetLimit - 1) = n + offsetLimit := by omega
  rw [index, Nat.mod_add_mod, hsum, Nat.add_mod_right, Nat.mod_eq_of_lt h]

end LineCol

namespace SourceFile

variable {f : SourceFile}

namespace Cut

variable {offset : Nat} {whole own : Bytes}

private theorem index_position (h : f.Cut offset whole own) (hle : offset ≤ f.content.length)
    (hfile : f.content.length < offsetLimit) : (f.position offset).index = own.length := by
  have hlength := h.length hle
  rw [h.position hle]
  exact LineCol.index_mk _ (by omega)

private theorem col_position_iff (h : f.Cut offset whole own) (hle : offset ≤ f.content.length)
    (hfile : f.content.length < offsetLimit) :
    (f.position offset).col = own.length + 1 ↔ ¬ f.ColumnWraps offset := by
  have hlength := h.length hle
  rw [h.position hle, h.columnWraps_iff hle hfile]
  by_cases hfull : own.length + 1 = offsetLimit
  · simp [hfull, offsetLimit]
  · simp [hfull, Nat.mod_eq_of_lt (by omega : own.length + 1 < offsetLimit)]

private theorem line_position (h : f.Cut offset whole own) (hle : offset ≤ f.content.length)
    (hfile : f.content.length < offsetLimit) (hnumbered : ¬ f.LineWraps offset) :
    (f.position offset).line = whole.count Bytes.newline + 1 := by
  have hcount := h.count_lt hle hfile
  rw [h.lineWraps_iff hle hfile] at hnumbered
  rw [h.position hle]
  exact Nat.mod_eq_of_lt (by omega)

/-- Behind the last line that has a number there is nothing. -/
private theorem line_position_of_wraps (h : f.Cut offset whole own)
    (hle : offset ≤ f.content.length) (hfile : f.content.length < offsetLimit)
    (hwraps : f.LineWraps offset) :
    (f.position offset).line = 0 ∧ own = [] ∧ offset = f.content.length := by
  have hlength := h.length hle
  have hcount : whole.count Bytes.newline ≤ whole.length := List.count_le_length
  rw [h.lineWraps_iff hle hfile] at hwraps
  refine ⟨?_, List.length_eq_zero_iff.mp (by omega), by omega⟩
  rw [h.position hle, hwraps, Nat.mod_self]

end Cut

private theorem position_before_iff (hfile : f.content.length < offsetLimit) {o₁ o₂ : Nat}
    (hlt : o₁ < o₂) (hle : o₂ ≤ f.content.length) :
    (f.position o₁).Before (f.position o₂) ↔ ¬ f.ColumnWraps o₂ ∧ ¬ f.LineWraps o₂ := by
  obtain ⟨whole₁, own₁, h₁⟩ := f.cut o₁
  obtain ⟨whole₂, own₂, h₂⟩ := f.cut o₂
  have hle₁ : o₁ ≤ f.content.length := by omega
  have hlength₁ := h₁.length hle₁
  have hlength₂ := h₂.length hle
  have hnumber₂ := h₂.count_lt hle hfile
  have hwhole₂ : whole₂.count Bytes.newline ≤ whole₂.length := List.count_le_length
  have hcount : whole₁.count Bytes.newline ≤ whole₂.count Bytes.newline := by
    rw [← h₁.count, ← h₂.count]
    exact (List.take_sublist_take_left (by omega)).count_le _
  rw [h₁.position hle₁, h₂.position hle, LineCol.Before, h₂.columnWraps_iff hle hfile,
    h₂.lineWraps_iff hle hfile]
  simp only
  rcases Nat.lt_or_eq_of_le hcount with hline | hline
  · -- An earlier line has a number, but the later one may have none.
    have hsmall : (whole₁.count Bytes.newline + 1) % offsetLimit =
        whole₁.count Bytes.newline + 1 := Nat.mod_eq_of_lt (by omega)
    by_cases hfull : whole₂.count Bytes.newline + 1 = offsetLimit
    · simp [hsmall, hfull]
    · have hlarge : (whole₂.count Bytes.newline + 1) % offsetLimit =
          whole₂.count Bytes.newline + 1 := Nat.mod_eq_of_lt (by omega)
      refine iff_of_true (.inl (by omega)) ⟨?_, hfull⟩
      omega
  · -- The same line starts at the same offset.
    have hstart : whole₁.length = whole₂.length := by
      rw [← h₁.lineStart, ← h₂.lineStart, hline]
    have hsmall : (own₁.length + 1) % offsetLimit = own₁.length + 1 :=
      Nat.mod_eq_of_lt (by omega)
    by_cases hfull : own₂.length + 1 = offsetLimit
    · simp [hline, hfull]
    · have hlarge : (own₂.length + 1) % offsetLimit = own₂.length + 1 :=
        Nat.mod_eq_of_lt (by omega)
      refine iff_of_true (.inr ⟨by rw [hline], ?_⟩) ⟨hfull, ?_⟩ <;> omega

/-- Offsets on the one hand, lines and columns on the other determine each other. The line of an
offset counts the newlines before it, and the column, counted from zero, leads from the start of
that line to the offset and into the text of the line. Later offsets have later positions, and the
lines make up the file.

The exceptions are the ends of two kinds of files of `2 ^ 32 - 1` bytes: where there is no newline
the column is zero, and where there is nothing else the line is. -/
theorem resolve_inverse (f : SourceFile) (hfile : f.content.length < offsetLimit) :
    (∀ offset ≤ f.content.length,
      let p := (f.resolve ⟨f.id, offset, offset⟩).1
      (p.line = 1 + (f.content.take offset).count Bytes.newline ↔ ¬ f.LineWraps offset) ∧
        (f.lineStart p.line + p.index = offset ↔ ¬ f.LineWraps offset) ∧
        p.index ≤ (f.line p.line).length ∧
        (∀ b, f.content[offset]? = some b → b ≠ Bytes.newline →
          (f.line p.line)[p.index]? = some b) ∧
        (p.col = p.index + 1 ↔ ¬ f.ColumnWraps offset)) ∧
    (∀ o₁ o₂, o₁ < o₂ → o₂ ≤ f.content.length →
      let p₁ := (f.resolve ⟨f.id, o₁, o₁⟩).1
      let p₂ := (f.resolve ⟨f.id, o₂, o₂⟩).1
      p₁.Before p₂ ↔ ¬ f.ColumnWraps o₂ ∧ ¬ f.LineWraps o₂) ∧
    Bytes.join [Bytes.newline] f.lines = f.content := by
  refine ⟨?_, fun o₁ o₂ hlt hle => position_before_iff hfile hlt hle, ?_⟩
  · intro offset hle p
    obtain ⟨whole, own, h⟩ := f.cut offset
    have hindex : p.index = own.length := h.index_position hle hfile
    have hcol : p.col = own.length + 1 ↔ ¬ f.ColumnWraps offset := h.col_position_iff hle hfile
    rw [hindex, hcol, h.count]
    by_cases hwraps : f.LineWraps offset
    · obtain ⟨hline, hown, hend⟩ := h.line_position_of_wraps hle hfile hwraps
      have hoffset : offset = offsetLimit - 1 := hwraps.1
      have hlimit : 1 < offsetLimit := by decide
      have hstart : f.lineStart 0 = 0 := rfl
      have hnone : f.content[offset]? = none := List.getElem?_eq_none hend.ge
      rw [show p.line = 0 from hline, hown, hnone, hstart]
      refine ⟨?_, ?_, Nat.zero_le _, by simp, Iff.rfl⟩
      · exact iff_of_false (by omega) (not_not_intro hwraps)
      · exact iff_of_false (by simp; omega) (not_not_intro hwraps)
    · rw [show p.line = _ from h.line_position hle hfile hwraps, h.lineStart, h.line]
      refine ⟨iff_of_true (Nat.add_comm _ _) hwraps, iff_of_true (h.length hle) hwraps, by simp, ?_,
        Iff.rfl⟩
      intro b hb hne
      obtain ⟨rest, hrest⟩ : ∃ rest, f.content.drop offset = b :: rest := by
        rw [← List.head?_drop] at hb
        exact List.head?_eq_some_iff.mp hb
      simp [hrest, hne]
  · rw [lines_eq_splitOnByte hfile]
    exact (Bytes.splitOnByte_split Bytes.newline f.content).join

def twoLines : SourceFile := { id := 0, path := "main.nkl", content := "a :: 1\nbb :: a\n" }

/-- The newline that ends the first line and the byte after it. -/
theorem resolve_inverse_twoLines :
    twoLines.content.length < offsetLimit ∧ (twoLines.position 6).Before (twoLines.position 7) ∧
      Bytes.join [Bytes.newline] twoLines.lines = twoLines.content := by
  have hfile : twoLines.content.length < offsetLimit := by decide
  obtain ⟨-, hbefore, hlines⟩ := twoLines.resolve_inverse hfile
  exact ⟨hfile, (hbefore 6 7 (by decide) (by decide)).mpr (by decide), hlines⟩

def repeated (b : UInt8) : SourceFile :=
  { id := 0, path := "main.nkl", content := List.replicate (offsetLimit - 1) b }

def longLine : SourceFile := repeated 0x61

def newlinesOnly : SourceFile := repeated Bytes.newline

theorem length_repeated (b : UInt8) : (repeated b).content.length = offsetLimit - 1 :=
  List.length_replicate

theorem newline_notMem_longLine : Bytes.newline ∉ longLine.content := by
  simp [longLine, repeated, Bytes.newline]

/-- The offset at the end of the largest one-line file has a position before that of its start, and
so has the one at the end of the largest file of blank lines. -/
theorem resolve_order_wraps :
    longLine.content.length < offsetLimit ∧ offsetLimit - 1 ≤ longLine.content.length ∧
      longLine.resolve ⟨0, 0, offsetLimit - 1⟩ = (⟨1, 1⟩, ⟨1, 0⟩) ∧
      ¬ (longLine.position 0).Before (longLine.position (offsetLimit - 1)) ∧
    newlinesOnly.content.length < offsetLimit ∧ offsetLimit - 1 ≤ newlinesOnly.content.length ∧
      newlinesOnly.resolve ⟨0, 0, offsetLimit - 1⟩ = (⟨1, 1⟩, ⟨0, 1⟩) ∧
      ¬ (newlinesOnly.position 0).Before (newlinesOnly.position (offsetLimit - 1)) := by
  have hlong := length_repeated 0x61
  have hblank := length_repeated Bytes.newline
  have hlimit : offsetLimit - 1 < offsetLimit := by decide
  have hfirst (f : SourceFile) : f.position 0 = ⟨1, 1⟩ := by
    have hcut : f.Cut 0 [] [] := ⟨by simp, by simp, .inl rfl⟩
    rw [hcut.position (Nat.zero_le _)]
    decide
  have hcolumn : longLine.position (offsetLimit - 1) = ⟨1, 0⟩ := by
    have hcut : longLine.Cut (offsetLimit - 1) [] longLine.content :=
      ⟨List.take_of_length_le hlong.le, newline_notMem_longLine, .inl rfl⟩
    rw [hcut.position hlong.ge, longLine, hlong]
    decide
  have hline : newlinesOnly.position (offsetLimit - 1) = ⟨0, 1⟩ := by
    have hcut : newlinesOnly.Cut (offsetLimit - 1) newlinesOnly.content [] := by
      refine ⟨?_, by simp, .inr ⟨List.replicate (offsetLimit - 2) Bytes.newline, ?_⟩⟩
      · rw [List.append_nil]
        exact List.take_of_length_le hblank.le
      · exact List.replicate_succ'
    have hcount : newlinesOnly.content.count Bytes.newline = offsetLimit - 1 :=
      List.count_replicate_self
    rw [hcut.position hblank.ge, hcount]
    decide
  refine ⟨?_, hlong.ge, ?_, ?_, ?_, hblank.ge, ?_, ?_⟩
  · exact hlong.trans_lt hlimit
  · rw [resolve, hfirst, hcolumn]
  · rw [hfirst, hcolumn]
    simp [LineCol.Before]
  · exact hblank.trans_lt hlimit
  · rw [resolve, hfirst, hline]
  · rw [hfirst, hline]
    simp [LineCol.Before]

end SourceFile

end Keywordless
