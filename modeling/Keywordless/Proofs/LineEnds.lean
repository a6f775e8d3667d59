import Keywordless.Proofs.DiagnosticSpans
import Keywordless.Proofs.LineLocality
import Keywordless.Proofs.MovedParses
import Keywordless.Source.FileSet
import Mathlib

/-!
# Line ends

A carriage return before a newline is a blank, so that folding the line ends of a text changes the
places of its tokens but neither the tokens nor the trees built from them.
-/

namespace Keywordless

/-! ### Folded texts -/

private theorem foldLineEnds_of_ne {b : UInt8} (hb : b ≠ 0x0D) (rest : Bytes) :
    foldLineEnds (b :: rest) = b :: foldLineEnds rest := by
  rw [foldLineEnds, if_neg (by simp [hb])]

private theorem foldLineEnds_cons (b : UInt8) (rest : Bytes) :
    foldLineEnds (b :: rest) = b :: foldLineEnds rest ∨
      b = 0x0D ∧ foldLineEnds (b :: rest) = foldLineEnds rest ∧
        ∃ more, rest = Bytes.newline :: more := by
  rw [foldLineEnds]
  split
  · next h =>
    simp only [Bool.and_eq_true, beq_iff_eq] at h
    obtain ⟨more, hmore⟩ := List.head?_eq_some_iff.mp h.2
    exact .inr ⟨h.1, rfl, more, hmore⟩
  · exact .inl rfl

private theorem foldLineEnds_append {line : Bytes} (hline : 0x0D ∉ line) (rest : Bytes) :
    foldLineEnds (line ++ rest) = line ++ foldLineEnds rest := by
  induction line with
  | nil => rfl
  | cons b line ih =>
    simp only [List.mem_cons, not_or] at hline
    rw [List.cons_append, foldLineEnds_of_ne (Ne.symm hline.1), ih hline.2, List.cons_append]

private theorem EndsLine.foldLineEnds {text : Bytes} (h : EndsLine text) :
    EndsLine (foldLineEnds text) := by
  cases text with
  | nil => exact h
  | cons b rest =>
    rcases foldLineEnds_cons b rest with hkept | ⟨-, hfold, more, rfl⟩
    · rw [hkept]
      exact h
    · rw [hfold, foldLineEnds_of_ne (by decide)]
      exact endsLine_newline _

private theorem foldLineEnds_length_le {text rest : Bytes} (h : rest <:+ text) :
    (foldLineEnds rest).length ≤ (foldLineEnds text).length := by
  induction text with
  | nil => rw [List.suffix_nil.mp h]
  | cons b text ih =>
    rcases List.suffix_cons_iff.mp h with rfl | hrest
    · exact le_rfl
    · have hle := ih hrest
      rcases foldLineEnds_cons b text with hkept | ⟨-, hfold, -⟩
      · rw [hkept, List.length_cons]
        omega
      · rw [hfold]
        exact hle

/-! ### What is left of a folded text -/

private theorem exists_line (text : Bytes) :
    ∃ line tail, text = line ++ tail ∧ 0x0D ∉ line ∧ EndsLine tail := by
  refine ⟨text.takeWhile (· != 0x0D), text.dropWhile (· != 0x0D), ?_, ?_, ?_⟩
  · rw [List.takeWhile_append_dropWhile]
  · intro hmem
    simpa using List.mem_takeWhile_imp hmem
  · intro b hb
    have hhead := List.head?_dropWhile_not (· != (0x0D : UInt8)) text
    rw [hb] at hhead
    exact .inr (by simpa using hhead)

private theorem head?_foldLineEnds {c : UInt8} (hc : c ∉ [Bytes.newline, 0x0D]) (text : Bytes) :
    ((foldLineEnds text).head? == some c) = (text.head? == some c) := by
  obtain ⟨line, tail, rfl, hline, htail⟩ := exists_line text
  rw [foldLineEnds_append hline, htail.head?_append hc, htail.foldLineEnds.head?_append hc]

private theorem dropWhile_foldLineEnds (text : Bytes) :
    (foldLineEnds text).dropWhile (· != Bytes.newline) =
      foldLineEnds (text.dropWhile (· != Bytes.newline)) := by
  induction text with
  | nil => rfl
  | cons b rest ih =>
    by_cases hb : b = Bytes.newline
    · subst hb
      simp [foldLineEnds_of_ne (show Bytes.newline ≠ 0x0D by decide)]
    · have hskip (more : Bytes) : (b :: more).dropWhile (· != Bytes.newline) =
          more.dropWhile (· != Bytes.newline) := List.dropWhile_cons_of_pos (by simpa using hb)
      rcases foldLineEnds_cons b rest with hkept | ⟨-, hfold, -⟩
      · rw [hkept, hskip, hskip, ih]
      · rw [hfold, hskip, ih]

private theorem afterTrivia_foldLineEnds (text : Bytes) :
    afterTrivia (foldLineEnds text) = foldLineEnds (afterTrivia text) := by
  induction text with
  | nil => rw [foldLineEnds, afterTrivia_nil, foldLineEnds]
  | cons b rest ih =>
    rcases foldLineEnds_cons b rest with hkept | ⟨rfl, hfold, -⟩
    · have hstarts : startsComment (b :: foldLineEnds rest) = startsComment (b :: rest) := by
        rw [startsComment_cons, startsComment_cons, head?_foldLineEnds (by decide)]
      rw [hkept]
      cases hb : isBlank b with
      | true => rw [afterTrivia_blank hb, afterTrivia_blank hb, ih]
      | false =>
        cases hcomment : startsComment (b :: rest) with
        | true =>
          rw [afterTrivia_comment hb (hstarts.trans hcomment), afterTrivia_comment hb hcomment]
          exact dropWhile_foldLineEnds rest
        | false =>
          rw [afterTrivia_other hb (hstarts.trans hcomment), afterTrivia_other hb hcomment, hkept]
    · rw [hfold, afterTrivia_blank rfl, ih]

private theorem isBlank_of_afterTrivia {text : Bytes} {b : UInt8} {rest : Bytes}
    (h : afterTrivia text = b :: rest) : isBlank b = false := by
  induction text with
  | nil => simp at h
  | cons c more ih =>
    cases hc : isBlank c with
    | true => exact ih (by rwa [afterTrivia_blank hc] at h)
    | false =>
      cases hcomment : startsComment (c :: more) with
      | true =>
        rw [afterTrivia_comment hc hcomment] at h
        have hhead := List.head?_dropWhile_not (· != Bytes.newline) more
        rw [h] at hhead
        have hb : b = Bytes.newline := by simpa using hhead
        rw [hb]
        rfl
      | false =>
        rw [afterTrivia_other hc hcomment] at h
        rw [← (List.cons.inj h).1, hc]

private theorem afterTrivia_foldLineEnds_cons {text : Bytes} {b : UInt8} {rest : Bytes}
    (h : afterTrivia text = b :: rest) :
    b ≠ 0x0D ∧ afterTrivia (foldLineEnds text) = b :: foldLineEnds rest := by
  have hb : b ≠ 0x0D := by
    rintro rfl
    cases isBlank_of_afterTrivia h
  rw [afterTrivia_foldLineEnds, h]
  exact ⟨hb, foldLineEnds_of_ne hb rest⟩

private theorem afterNewlines_foldLineEnds (rest : Bytes) :
    afterNewlines (foldLineEnds rest) = foldLineEnds (afterNewlines rest) := by
  induction hlength : rest.length using Nat.strong_induction_on generalizing rest with
  | _ n ih =>
    cases hfront : afterTrivia rest with
    | nil =>
      have hfold : afterTrivia (foldLineEnds rest) = [] := by
        rw [afterTrivia_foldLineEnds, hfront, foldLineEnds]
      rw [afterNewlines_of_other (by simp [hfold]), afterNewlines_of_other (by simp [hfront])]
    | cons b more =>
      obtain ⟨-, hfold⟩ := afterTrivia_foldLineEnds_cons hfront
      by_cases hb : b = Bytes.newline
      · subst hb
        have hshort := triviaSize_add_length rest
        rw [hfront, List.length_cons] at hshort
        rw [afterNewlines_of_newline hfold, afterNewlines_of_newline hfront]
        exact ih more.length (by omega) more rfl
      · rw [afterNewlines_of_other (by simp [hfold, hb]),
          afterNewlines_of_other (by simp [hfront, hb])]

/-- No lexeme but a newline has a carriage return in it or looks beyond one. -/
theorem lexeme_foldLineEnds {b : UInt8} (hnewline : b ≠ Bytes.newline) (hreturn : b ≠ 0x0D)
    (rest : Bytes) :
    Lexeme.ofBytes b (foldLineEnds rest) = Lexeme.ofBytes b rest ∧
      afterLexeme b (foldLineEnds rest) = foldLineEnds (afterLexeme b rest) := by
  obtain ⟨line, tail, rfl, hline, htail⟩ := exists_line rest
  have hleft : 0x0D ∉ afterLexeme b line := by
    intro hmem
    have hin : 0x0D ∈ b :: line := List.mem_of_mem_drop hmem
    simp [hline, Ne.symm hreturn] at hin
  rw [foldLineEnds_append hline]
  constructor
  · rw [Lexeme.ofBytes_append htail hnewline, Lexeme.ofBytes_append htail.foldLineEnds hnewline]
  · rw [afterLexeme_append htail hnewline, afterLexeme_append htail.foldLineEnds hnewline,
      foldLineEnds_append hleft]

/-! ### Tokens of a folded text -/

/-- Where an offset of a text is after its line ends were folded. -/
def foldedPlace (text : Bytes) (offset : Nat) : Nat :=
  (foldLineEnds text).length - (foldLineEnds (text.drop offset)).length

private theorem foldedPlace_monotone (text : Bytes) : Monotone (foldedPlace text) := by
  intro i j hij
  apply Nat.sub_le_sub_left
  apply foldLineEnds_length_le
  rw [← Nat.add_sub_of_le hij, ← List.drop_drop]
  exact List.drop_suffix _ _

def Relocation.folding (text : Bytes) : Relocation where
  place := foldedPlace text
  inOrder := foldedPlace_monotone text

open Relocation

private theorem folding_sends {text left : Bytes} (h : left <:+ text) :
    (folding text).Sends text.length (foldLineEnds text).length left (foldLineEnds left) := by
  have hdrop := List.suffix_iff_eq_drop.mp h
  change _ - (foldLineEnds (text.drop (text.length - left.length))).length = _
  rw [← hdrop]

private theorem folding_row (file : FileId) {text rest : Bytes} (h : rest <:+ text) :
    (folding text).Row (tokensAt file text.length rest)
      (tokensAt file (foldLineEnds text).length (foldLineEnds rest)) := by
  induction rest using lexing_induction with
  | ended rest hend =>
    apply Row.ended rfl h.length_le (foldLineEnds_length_le h) hend
    · rw [afterTrivia_foldLineEnds, hend, foldLineEnds]
    · simpa [Sends, foldLineEnds] using folding_sends (List.nil_suffix (l := text))
  | read rest b more hfront ih =>
    obtain ⟨hreturn, hfold⟩ := afterTrivia_foldLineEnds_cons hfront
    have hstart : b :: more <:+ text := by
      rw [← hfront]
      exact (List.drop_suffix _ _).trans h
    have hleft : afterLexeme b more <:+ text := (List.drop_suffix _ _).trans hstart
    have hsends := folding_sends hstart
    rw [foldLineEnds_of_ne hreturn] at hsends
    have hsame : afterLexeme b (foldLineEnds more) = foldLineEnds (afterLexeme b more) ∧
        (Lexeme.ofBytes b more).Alike (Lexeme.ofBytes b (foldLineEnds more)) := by
      by_cases hb : b = Bytes.newline
      · subst hb
        rw [afterLexeme_newline, afterLexeme_newline, afterNewlines_foldLineEnds]
        exact ⟨rfl, rfl, rfl, rfl⟩
      · obtain ⟨hlexeme, hafter⟩ := lexeme_foldLineEnds hb hreturn more
        rw [hlexeme]
        exact ⟨hafter, rfl, rfl, rfl⟩
    obtain ⟨hafter, halike⟩ := hsame
    apply Row.read h.length_le (foldLineEnds_length_le h) hfront hfold halike hsends
    · rw [hafter]
      exact folding_sends hleft
    · rw [hafter]
      exact ih hleft

private theorem Relocation.Row.kinds_texts {m : Relocation} {w w' : List Token}
    (hwhole : m.after = none) (h : m.Row w w') :
    w'.map (fun t => (t.kind, t.text)) = w.map (fun t => (t.kind, t.text)) := by
  induction h with
  | nil => rfl
  | cons hlike _ _ ih => simp only [List.map_cons, hlike.kind, hlike.text, ih]
  | seam hafter => simp [hafter] at hwhole

private theorem Relocation.Row.lexReports {m : Relocation} {w w' : List Token}
    (hwhole : m.after = none)
    (h : m.Row w w') : lexReports w' = (lexReports w).map (Diagnostic.moved m.place) := by
  induction h with
  | nil => rfl
  | @cons t t' w w' hlike _ _ ih =>
    unfold Keywordless.lexReports at ih ⊢
    rw [List.filterMap_cons, List.filterMap_cons, hlike.diagnostic?, ih]
    cases t.diagnostic? <;> rfl
  | seam hafter => simp [hafter] at hwhole

/-! ### Files -/

/-- The second file has the tokens and the trees of the first one at other places. The lexer and the
parser report the same on both, again at other places. -/
structure SourceFile.ReadsLike (place : Nat → Nat) (f g : SourceFile) : Prop where
  tokens : (Lexer.ofFile g).all.1.map (fun t => (t.kind, t.text)) =
    (Lexer.ofFile f).all.1.map (fun t => (t.kind, t.text))
  lexed : (Lexer.ofFile g).all.2.reports =
    (Lexer.ofFile f).all.2.reports.map (Diagnostic.moved place)
  failed : g.parse.failed = f.parse.failed
  items : g.parse.file.items = f.parse.file.items.map (Expr.moved place 0)
  parsed : g.parse.reports = f.parse.reports.map (Diagnostic.moved place)

private theorem readsLike_of_foldLineEnds (f g : SourceFile) (hid : g.id = f.id)
    (hcontent : g.content = foldLineEnds f.content) : f.ReadsLike (foldedPlace f.content) g := by
  have hrow : (folding f.content).Row f.tokens g.tokens := by
    rw [f.tokens_eq, g.tokens_eq, hid, hcontent]
    exact folding_row f.id List.suffix_rfl
  have hmoved : Syntax.Moved (folding f.content) (Syntax.items f.stream) (Syntax.items g.stream) :=
    Syntax.items_moved rfl _ _ ⟨hrow, rfl, rfl, rfl, False.elim⟩
  obtain ⟨hitems, hfailed, -, hreports⟩ := f.parse_items
  obtain ⟨hitems', hfailed', -, hreports'⟩ := g.parse_items
  constructor
  · rw [Lexer.all_ofFile, Lexer.all_ofFile]
    exact hrow.kinds_texts rfl
  · rw [Lexer.all_reports, Lexer.all_reports]
    exact hrow.lexReports rfl
  · rw [hfailed', hmoved.failed, ← hfailed]
  · rw [hitems', hmoved.items, ← hitems]
    rfl
  · rw [hreports', hmoved.halts.reports, ← hreports]
    rfl

/-- Line ends do not matter. A file reads like the one whose line ends are folded, and so a file
from disk reads like one in memory with the same bytes, without the mark they may start with. -/
theorem FileSet.line_ends_read_alike :
    (∀ f : SourceFile,
      f.ReadsLike (foldedPlace f.content) { f with content := foldLineEnds f.content }) ∧
    ∀ (files : FileSet) (path raw : Bytes),
      let content := dropByteOrderMark raw
      let loaded := files.addLoaded path raw
      let added := files.addVirtual path content
      ∃ disk memory, loaded.2.get? loaded.1 = some disk ∧ added.2.get? added.1 = some memory ∧
        memory.content = content ∧ memory.ReadsLike (foldedPlace content) disk := by
  constructor
  · intro f
    exact readsLike_of_foldLineEnds f { f with content := foldLineEnds f.content } rfl rfl
  · intro files path raw content loaded added
    let disk : SourceFile := fileOfRaw files.size path raw
    let memory : SourceFile := ⟨files.size, Path.clean path, content, .virtual⟩
    refine ⟨disk, memory, ?_, ?_, rfl, ?_⟩
    · exact Array.getElem?_push_size
    · exact Array.getElem?_push_size
    · exact readsLike_of_foldLineEnds memory disk rfl rfl

end Keywordless
