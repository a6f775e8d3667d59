import Keywordless.Diagnostic.Render
import Keywordless.Proofs.LineColumns

/-!
# Snippets

Under the headline of a diagnostic stand the line its span starts on, lines above it, and a line
with a caret. Wherever the span ends, what is cut out of the line lies within it, the caret stands
behind the blanks for what comes before the span, and the gutters are all as wide as that of the
last line. Line numbers and columns are 32-bit words, so that only files that run out of these are
shown otherwise or not at all.
-/

namespace Keywordless

namespace Bytes

private theorem length_ofNat_mono {m n : Nat} (h : m ≤ n) :
    (ofNat m).length ≤ (ofNat n).length := by
  have hiff (k : Nat) : (Nat.toDigits 10 k).length ≤ (Nat.toDigits 10 n).length ↔
      k < 10 ^ (Nat.toDigits 10 n).length :=
    Nat.length_toDigits_le_iff (by decide) Nat.length_toDigits_pos
  have hn := (hiff n).mp (Nat.le_refl _)
  simpa [ofNat] using (hiff m).mpr (Nat.lt_of_le_of_lt h hn)

private theorem length_padLeft (width : Nat) (text : Bytes) :
    (padLeft width text).length = max width text.length := by
  simp only [padLeft, spaces, List.length_append, List.length_replicate]
  omega

end Bytes

namespace SourceFile

variable (f : SourceFile)

/-! ### The line of an offset, before and behind it -/

def lineNumber (offset : Nat) : Nat := (f.content.take offset).count Bytes.newline + 1

def lineLead (offset : Nat) : Bytes := (f.content.take offset).rtakeWhile (· != Bytes.newline)

def lineTail (offset : Nat) : Bytes := (f.content.drop offset).takeWhile (· != Bytes.newline)

variable {f} {offset : Nat} {whole own : Bytes}

private theorem Cut.lineNumber (h : f.Cut offset whole own) :
    f.lineNumber offset = whole.count Bytes.newline + 1 := by
  rw [SourceFile.lineNumber, h.count]

private theorem Cut.lineLead (h : f.Cut offset whole own) : f.lineLead offset = own := by
  have hown : ∀ b ∈ own.reverse, (b != Bytes.newline) = true := by
    intro b hb
    simp only [bne_iff_ne]
    rintro rfl
    exact h.own (List.mem_reverse.mp hb)
  rw [SourceFile.lineLead, h.take, List.rtakeWhile, List.reverse_append,
    List.takeWhile_append_of_pos hown]
  rcases h.whole with rfl | ⟨lines, rfl⟩
  · simp
  · simp

variable (f)

private theorem line_lineNumber (offset : Nat) :
    f.line (f.lineNumber offset) = f.lineLead offset ++ f.lineTail offset := by
  obtain ⟨whole, own, h⟩ := f.cut offset
  rw [h.lineNumber, h.lineLead, h.line, lineTail]

private theorem lineStart_add_lead (hle : offset ≤ f.content.length) :
    f.lineStart (f.lineNumber offset) + (f.lineLead offset).length = offset := by
  obtain ⟨whole, own, h⟩ := f.cut offset
  rw [h.lineNumber, h.lineLead, h.lineStart]
  exact h.length hle

private theorem columnWraps_iff_lead (hfile : f.content.length < offsetLimit)
    (hle : offset ≤ f.content.length) :
    f.ColumnWraps offset ↔ (f.lineLead offset).length + 1 = offsetLimit := by
  obtain ⟨whole, own, h⟩ := f.cut offset
  rw [h.lineLead]
  exact h.columnWraps_iff hle hfile

private theorem lineNumber_of_notMem (h : Bytes.newline ∉ f.content) (offset : Nat) :
    f.lineNumber offset = 1 := by
  rw [lineNumber, List.count_eq_zero_of_not_mem fun hmem => h (List.mem_of_mem_take hmem)]

private theorem lineNumber_pos (offset : Nat) : 0 < f.lineNumber offset := Nat.succ_pos _

private theorem lineNumber_le (hfile : f.content.length < offsetLimit) (offset : Nat) :
    f.lineNumber offset ≤ offsetLimit := by
  have hcount : (f.content.take offset).count Bytes.newline ≤ f.content.length :=
    Nat.le_trans List.count_le_length (List.length_take_le' _ _)
  rw [lineNumber]
  omega

private theorem position_eq (offset : Nat) :
    f.position offset =
      ⟨f.lineNumber offset % offsetLimit,
        (offset - f.lineStart (f.lineNumber offset) + 1) % offsetLimit⟩ := by
  obtain ⟨whole, own, h⟩ := f.cut offset
  rw [h.position_from_start, h.lineNumber, h.lineStart]

private theorem position_eq_lead (hle : offset ≤ f.content.length) :
    f.position offset =
      ⟨f.lineNumber offset % offsetLimit, ((f.lineLead offset).length + 1) % offsetLimit⟩ := by
  obtain ⟨whole, own, h⟩ := f.cut offset
  rw [h.position hle, h.lineNumber, h.lineLead]

/-- No two lines have one number, though the last may have number zero. -/
theorem position_line_inj (hfile : f.content.length < offsetLimit) {o₁ o₂ : Nat} :
    (f.position o₁).line = (f.position o₂).line ↔ f.lineNumber o₁ = f.lineNumber o₂ := by
  have hpos₁ := f.lineNumber_pos o₁
  have hpos₂ := f.lineNumber_pos o₂
  have hle₁ := f.lineNumber_le hfile o₁
  have hle₂ := f.lineNumber_le hfile o₂
  have hword (n : Nat) (hpos : 0 < n) (hle : n ≤ offsetLimit) :
      n % offsetLimit = if n = offsetLimit then 0 else n := by
    split
    · rename_i hlast
      rw [hlast, Nat.mod_self]
    · exact Nat.mod_eq_of_lt (by omega)
  rw [f.position_eq, f.position_eq]
  simp only [hword _ hpos₁ hle₁, hword _ hpos₂ hle₂]
  split <;> split <;> omega

private theorem lineTail_length_le {start stop : Nat} (hle : start ≤ stop)
    (hline : f.lineNumber stop ≠ f.lineNumber start) :
    (f.lineTail start).length ≤ stop - start := by
  have htake : f.content.take stop =
      f.content.take start ++ (f.content.drop start).take (stop - start) := by
    rw [← List.take_add, Nat.add_sub_cancel' hle]
  have hmem : Bytes.newline ∈ (f.content.drop start).take (stop - start) := by
    by_contra hnone
    apply hline
    rw [lineNumber, htake, List.count_append, List.count_eq_zero_of_not_mem hnone, lineNumber,
      Nat.add_zero]
  by_contra hlong
  have hhead : (f.content.drop start).take (stop - start) <+: f.lineTail start :=
    List.prefix_of_prefix_length_le (List.take_prefix _ _) (List.takeWhile_prefix _)
      (Nat.le_trans (List.length_take_le _ _) (by omega))
  have htail := List.mem_takeWhile_imp (hhead.mem hmem)
  simp at htail

end SourceFile

namespace Report

open SourceFile

/-! ### Lines shown and cells underlined -/

private theorem length_gutterText {width : Nat} {text : Bytes} (h : text.length ≤ width) :
    (gutterText width text).length = width + 2 := by
  have hbar : (" |" : Bytes).length = 2 := rfl
  rw [gutterText, List.length_append, Bytes.length_padLeft, Nat.max_eq_left h, hbar]

private theorem shownLines_eq {line : Nat} (h : line + 1 ≠ offsetLimit) (context : Int) :
    shownLines line context = .ok (List.Ico (max 1 (line - context.toNat)) (line + 1)) := by
  have hfirst : (if line > context.toNat then line - context.toNat else 1) =
      max 1 (line - context.toNat) := by
    split <;> omega
  simp only [shownLines, hfirst, if_neg h, List.Ico, List.range'_eq_map_range]

private theorem part_lead (lead tail : Bytes) : part (lead ++ tail) 0 lead.length = .ok lead := by
  simp [part]

private theorem part_tail (lead : Bytes) {tail : Bytes} {size : Nat} (h : size ≤ tail.length) :
    part (lead ++ tail) lead.length (lead.length + size) = .ok (tail.take size) := by
  have hwithin : (lead.length : Int) + size ≤ (lead ++ tail).length := by
    rw [List.length_append]
    omega
  have hsize : ((lead.length : Int) + size).toNat = lead.length + size := by omega
  rw [part, if_pos ⟨by omega, by omega, hwithin⟩, hsize]
  simp [List.take_append]

private theorem underline_eq {lead tail : Bytes} {start stop : LineCol} (hcol : start.col ≠ 0)
    (hlead : min (start.col - 1) (lead ++ tail).length = lead.length) :
    underline (lead ++ tail) start stop = .ok ⟨lead, tail.take
      (if stop.line = start.line then min (stop.col - 1 - lead.length) tail.length
        else tail.length)⟩ := by
  rw [List.length_append] at hlead
  have hfirst : min ((start.col : Int) - 1) (lead ++ tail).length = lead.length := by
    rw [List.length_append]
    omega
  by_cases hline : stop.line = start.line
  · have hlast : max (min ((stop.col : Int) - 1) (lead ++ tail).length) lead.length =
        lead.length + (min (stop.col - 1 - lead.length) tail.length : Nat) := by
      rw [List.length_append]
      omega
    simp only [underline, if_pos hline, hfirst, hlast, part_tail lead (Nat.min_le_right _ _),
      part_lead]
    rfl
  · have hlast : max ((lead ++ tail).length : Int) lead.length = lead.length + tail.length := by
      rw [List.length_append]
      omega
    simp only [underline, if_neg hline, hfirst, hlast, part_tail lead (Nat.le_refl _), part_lead]
    rfl

private theorem underline_outOfRange (line : Bytes) {start : LineCol} (hcol : start.col = 0)
    (stop : LineCol) : underline line start stop = .error .outOfRange := by
  have hfirst : min ((start.col : Int) - 1) line.length = -1 := by omega
  simp only [underline, hfirst]
  rfl

/-- The underline starts where the span starts, and it is as long as the part of the span on that
line when the end of the span has a column. -/
theorem underline_position {f : SourceFile} (hfile : f.content.length < offsetLimit) {start : Nat}
    (hle : start ≤ f.content.length) (hlead : (f.lineLead start).length + 1 < offsetLimit)
    (stop : Nat) :
    ∃ covered, underline (f.lineLead start ++ f.lineTail start) (f.position start)
        (f.position stop) = .ok ⟨f.lineLead start, covered⟩ ∧
      (start ≤ stop → stop < offsetLimit - 1 →
        covered = (f.lineTail start).take (stop - start)) := by
  have hcol : (f.position start).col = (f.lineLead start).length + 1 := by
    rw [f.position_eq_lead hle, Nat.mod_eq_of_lt hlead]
  refine ⟨_, underline_eq (by omega) (by rw [hcol, List.length_append]; omega), ?_⟩
  intro hforth hstop
  simp only [f.position_line_inj hfile]
  by_cases hsame : f.lineNumber stop = f.lineNumber start
  · have hstart := f.lineStart_add_lead hle
    have hlast : (f.position stop).col - 1 - (f.lineLead start).length = stop - start := by
      have hmod : (stop - f.lineStart (f.lineNumber start) + 1) % offsetLimit =
          stop - f.lineStart (f.lineNumber start) + 1 := Nat.mod_eq_of_lt (by omega)
      rw [f.position_eq, hsame, hmod]
      simp only
      omega
    rw [if_pos hsame, hlast, ← List.take_eq_take_min]
  · rw [if_neg hsame, List.take_length,
      List.take_of_length_le (f.lineTail_length_le hforth hsame)]

/-! ### Whole snippets -/

variable (measure : Measure) (color : Bool) (f : SourceFile) (span : Span) (context : Int)

private theorem snippet_eq :
    snippet measure color f span context =
      let number := f.lineNumber span.start % offsetLimit
      shownLines number context >>= fun shown =>
      underline (f.line number) (f.position span.start) (f.position span.stop) >>= fun cut =>
      let width := (Bytes.ofNat number).length
      pure (numberedLines color f width shown ++
        caretLine measure color width cut.lead (max (measure.text cut.covered) 1)) := by
  have hline : (f.position span.start).line = f.lineNumber span.start % offsetLimit := by
    rw [f.position_eq]
  rw [← hline]
  rfl

variable {f span}

private theorem snippet_of_cut {number : Nat} {shown : List Nat} {cut : Underline}
    (hnumber : f.lineNumber span.start % offsetLimit = number)
    (hshown : shownLines number context = .ok shown)
    (hcut : underline (f.line number) (f.position span.start) (f.position span.stop) = .ok cut) :
    snippet measure color f span context = .ok (
      numberedLines color f (Bytes.ofNat number).length shown ++
        caretLine measure color (Bytes.ofNat number).length cut.lead
          (max (measure.text cut.covered) 1)) := by
  rw [snippet_eq, hnumber]
  simp only [hshown, hcut]
  rfl

/-- The walk over the lines does not end when the last of them has the last number. -/
theorem snippet_endless (hlast : f.lineNumber span.start + 1 = offsetLimit) :
    snippet measure color f span context = .error .endless := by
  have hmod : f.lineNumber span.start % offsetLimit = f.lineNumber span.start :=
    Nat.mod_eq_of_lt (by omega)
  rw [snippet_eq]
  simp only [hmod, shownLines, if_pos hlast]
  rfl

section

variable (hfile : f.content.length < offsetLimit) (hle : span.start ≤ f.content.length)
include hfile hle

private theorem snippet_outOfRange (hend : f.ColumnWraps span.start) :
    snippet measure color f span context = .error .outOfRange := by
  have hnumber : f.lineNumber span.start % offsetLimit = 1 := by
    rw [f.lineNumber_of_notMem hend.2]
    decide
  have hcol : (f.position span.start).col = 0 := by
    rw [f.position_eq_lead hle, (f.columnWraps_iff_lead hfile hle).mp hend, Nat.mod_self]
  rw [snippet_eq]
  simp only [hnumber, shownLines_eq (by decide : 1 + 1 ≠ offsetLimit), underline_outOfRange _ hcol]
  rfl

private theorem lineLead_length_lt (hend : ¬ f.ColumnWraps span.start) :
    (f.lineLead span.start).length + 1 < offsetLimit := by
  have hstart := f.lineStart_add_lead hle
  have hfull := mt (f.columnWraps_iff_lead hfile hle).mpr hend
  omega

/-- The line after the one with the last number has number zero, which no line of a file has: the
caret stands alone. -/
theorem snippet_unnumbered (hlast : f.lineNumber span.start = offsetLimit) :
    snippet measure color f span context =
      .ok (caretLine measure color 1 [] (max 1 (measure.text []))) := by
  have hnumber : f.lineNumber span.start % offsetLimit = 0 := by rw [hlast, Nat.mod_self]
  have hshown : shownLines 0 context = .ok [] := by
    rw [shownLines_eq (by decide)]
    simp
  have hend : ¬ f.ColumnWraps span.start := by
    intro h
    rw [f.lineNumber_of_notMem h.2] at hlast
    exact absurd hlast (by decide)
  have hcol : (f.position span.start).col ≠ 0 := by
    rw [f.position_eq_lead hle, Nat.mod_eq_of_lt (lineLead_length_lt hfile hle hend)]
    exact Nat.succ_ne_zero _
  have hcut : underline (f.line 0) (f.position span.start) (f.position span.stop) =
      .ok ⟨[], []⟩ := by
    have hempty : underline ([] ++ []) (f.position span.start) (f.position span.stop) = _ :=
      underline_eq hcol (by simp)
    simpa [SourceFile.line] using hempty
  rw [snippet_of_cut measure color context hnumber hshown hcut]
  simp [numberedLines, Bytes.ofNat, Nat.max_comm]

/-- The lines above and the line of the span, and the caret behind what stands before the span. -/
theorem snippet_inside (hnumber : f.lineNumber span.start + 1 < offsetLimit)
    (hend : ¬ f.ColumnWraps span.start) :
    let number := f.lineNumber span.start
    let width := (Bytes.ofNat number).length
    ∃ cells, snippet measure color f span context =
        .ok (numberedLines color f width
            (List.Ico (max 1 (number - context.toNat)) (number + 1)) ++
          caretLine measure color width (f.lineLead span.start) cells) ∧
      1 ≤ cells ∧
      (span.start ≤ span.stop → span.stop < offsetLimit - 1 →
        cells = max 1 (measure.text ((f.lineTail span.start).take (span.stop - span.start)))) := by
  intro number width
  have hlead := lineLead_length_lt hfile hle hend
  obtain ⟨covered, hcut, hcovered⟩ := underline_position hfile hle hlead span.stop
  rw [← f.line_lineNumber] at hcut
  have hmod : number % offsetLimit = number := Nat.mod_eq_of_lt (by omega)
  have hshown := shownLines_eq (Nat.ne_of_lt hnumber) context
  refine ⟨_, snippet_of_cut measure color context hmod hshown hcut, by omega, ?_⟩
  intro hforth hstop
  rw [hcovered hforth hstop, Nat.max_comm]

private theorem snippet_error_iff (fault : Fault) :
    snippet measure color f span context = .error fault ↔
      fault = .outOfRange ∧ f.ColumnWraps span.start ∨
        fault = .endless ∧ f.lineNumber span.start + 1 = offsetLimit := by
  have hnumber := f.lineNumber_le hfile span.start
  constructor
  · intro hfault
    by_cases hend : f.ColumnWraps span.start
    · rw [snippet_outOfRange measure color context hfile hle hend, Except.error.injEq] at hfault
      exact .inl ⟨hfault.symm, hend⟩
    by_cases hlast : f.lineNumber span.start + 1 = offsetLimit
    · rw [snippet_endless measure color context hlast, Except.error.injEq] at hfault
      exact .inr ⟨hfault.symm, hlast⟩
    by_cases hover : f.lineNumber span.start = offsetLimit
    · rw [snippet_unnumbered measure color context hfile hle hover] at hfault
      cases hfault
    · obtain ⟨cells, hok, -⟩ := snippet_inside measure color context hfile hle (by omega) hend
      rw [hok] at hfault
      cases hfault
  · intro h
    rcases h with ⟨rfl, hend⟩ | ⟨rfl, hlast⟩
    · exact snippet_outOfRange measure color context hfile hle hend
    · exact snippet_endless measure color context hlast

end

private theorem length_gutterText_shown {numbers : List Nat} {last : Nat}
    (h : ∀ n ∈ numbers, n ≤ last) {text : Bytes} (htext : text ∈ [] :: numbers.map Bytes.ofNat) :
    (gutterText (Bytes.ofNat last).length text).length = (Bytes.ofNat last).length + 2 := by
  apply length_gutterText
  rcases List.mem_cons.mp htext with rfl | hmem
  · exact Nat.zero_le _
  · obtain ⟨n, hn, rfl⟩ := List.mem_map.mp hmem
    exact Bytes.length_ofNat_mono (h n hn)

/-- A snippet of a file shorter than `2 ^ 32` bytes, for a span that starts in it and ends anywhere.
It shows the line of the start and at most `context` lines above it, in order and with gutters of
one width, and a caret line. The blanks before the caret are those for what stands on the line
before the start, and the caret and its tildes take as many cells as what the span covers of the
line, but at least one. How many cells characters and texts take is left open.

The exceptions are files that use up the 32-bit words. The end of `2 ^ 32 - 1` bytes on one line has
column zero, which cannot be cut out. Behind `2 ^ 32 - 2` newlines the walk over the lines does not
end, and behind one more no line is shown. -/
theorem snippet_aligned (measure : Measure) (color : Bool) (f : SourceFile) (span : Span)
    (context : Int) (hfile : f.content.length < offsetLimit)
    (hle : span.start ≤ f.content.length) :
    let number := f.lineNumber span.start
    let lead := f.lineLead span.start
    let tail := f.lineTail span.start
    let width := (Bytes.ofNat number).length
    let shown := List.Ico (max 1 (number - context.toNat)) (number + 1)
    f.line number = lead ++ tail ∧
    (∀ text ∈ [] :: shown.map Bytes.ofNat, (gutterText width text).length = width + 2) ∧
    (∀ fault, snippet measure color f span context = .error fault ↔
      fault = .outOfRange ∧ f.ColumnWraps span.start ∨
        fault = .endless ∧ number + 1 = offsetLimit) ∧
    (number = offsetLimit → snippet measure color f span context =
      .ok (caretLine measure color 1 [] (max 1 (measure.text [])))) ∧
    (number + 1 < offsetLimit → ¬ f.ColumnWraps span.start →
      ∃ cells, snippet measure color f span context =
          .ok (numberedLines color f width shown ++ caretLine measure color width lead cells) ∧
        1 ≤ cells ∧
        (span.start ≤ span.stop → span.stop < offsetLimit - 1 →
          cells = max 1 (measure.text (tail.take (span.stop - span.start))))) := by
  intro number lead tail width shown
  have hshown : ∀ n ∈ shown, n ≤ number := by
    intro n hn
    exact Nat.le_of_lt_succ (List.Ico.mem.mp hn).2
  exact ⟨f.line_lineNumber _, fun _ => length_gutterText_shown hshown,
    snippet_error_iff measure color context hfile hle,
    snippet_unnumbered measure color context hfile hle,
    snippet_inside measure color context hfile hle⟩

/-- A span from the middle of the second of two lines to the line behind the end of the file. -/
theorem snippet_aligned_twoLines :
    twoLines.content.length < offsetLimit ∧ 8 ≤ twoLines.content.length ∧
      snippet Width.measure false twoLines ⟨0, 8, 16⟩ 3 =
        .ok "1 | a :: 1\n2 | bb :: a\n  |  ^~~~~~\n" := by
  have hfile : twoLines.content.length < offsetLimit := by decide
  have hle : 8 ≤ twoLines.content.length := by decide
  obtain ⟨-, -, -, -, hinside⟩ :=
    snippet_aligned Width.measure false twoLines ⟨0, 8, 16⟩ 3 hfile hle
  obtain ⟨cells, hprinted, -, hcells⟩ := hinside (by decide) (by decide)
  have hwidth : cells = 6 := by
    rw [hcells (by decide) (by decide)]
    decide +kernel
  refine ⟨hfile, hle, ?_⟩
  rw [hprinted, hwidth]
  decide +kernel

def blankLines : SourceFile :=
  { id := 0, path := "main.nkl", content := List.replicate (offsetLimit - 2) Bytes.newline }

/-- At the end of the largest one-line file the column is used up, and at the end of a file with
nearly as many blank lines the line number is. -/
theorem snippet_runs_out :
    longLine.content.length < offsetLimit ∧ offsetLimit - 1 ≤ longLine.content.length ∧
      (∀ measure, snippet measure false longLine ⟨0, offsetLimit - 1, offsetLimit - 1⟩ 0 =
        .error .outOfRange) ∧
    blankLines.content.length < offsetLimit ∧ offsetLimit - 2 ≤ blankLines.content.length ∧
      ∀ measure, snippet measure false blankLines ⟨0, offsetLimit - 2, offsetLimit - 2⟩ 0 =
        .error .endless := by
  have hline : longLine.content.length = offsetLimit - 1 := length_repeated 0x61
  have hblank : blankLines.content.length = offsetLimit - 2 := List.length_replicate
  have hfile : longLine.content.length < offsetLimit := by
    rw [hline]
    decide
  refine ⟨hfile, hline.ge, fun measure => ?_, ?_, hblank.ge, fun measure => ?_⟩
  · exact snippet_outOfRange measure false 0 hfile hline.ge ⟨rfl, newline_notMem_longLine⟩
  · rw [hblank]
    decide
  · have hcount : blankLines.content.count Bytes.newline = offsetLimit - 2 :=
      List.count_replicate_self
    -- A start that is a variable keeps unification from counting in the content.
    have hspan {span : Span} (hstart : span.start = offsetLimit - 2) :
        snippet measure false blankLines span 0 = .error .endless := by
      apply snippet_endless
      rw [hstart, SourceFile.lineNumber, List.take_of_length_le hblank.le, hcount]
      decide
    exact hspan rfl

end Report

end Keywordless
