import Keywordless.Proofs.CompileOutcome
import Keywordless.Proofs.LineLocality
import Keywordless.Proofs.MovedParses
import Mathlib

/-!
# Joined texts

A text that parses may be continued on the next line by any other text. The parse of the whole then
goes on after the first text as the parse of the second one does from the start.
-/

namespace Keywordless

open Syntax

/-! ### Tokens of a joined text -/

private theorem dropWhile_append_newline (text more : Bytes) :
    (text ++ Bytes.newline :: more).dropWhile (· != Bytes.newline) =
      text.dropWhile (· != Bytes.newline) ++ Bytes.newline :: more := by
  rw [List.dropWhile_append]
  cases text.dropWhile (· != Bytes.newline) <;> simp

private theorem afterTrivia_append (text more : Bytes) :
    afterTrivia (text ++ Bytes.newline :: more) = afterTrivia text ++ Bytes.newline :: more := by
  induction text with
  | nil => simp
  | cons b rest ih =>
    have hstarts : startsComment (b :: (rest ++ Bytes.newline :: more)) =
        startsComment (b :: rest) := by
      rw [startsComment_cons, startsComment_cons, (endsLine_newline more).head?_append (by decide)]
    rw [List.cons_append]
    cases hb : isBlank b with
    | true => rw [afterTrivia_blank hb, afterTrivia_blank hb, ih]
    | false =>
      cases hcomment : startsComment (b :: rest) with
      | true =>
        rw [afterTrivia_comment hb (hstarts.trans hcomment), afterTrivia_comment hb hcomment]
        exact dropWhile_append_newline rest more
      | false =>
        rw [afterTrivia_other hb (hstarts.trans hcomment), afterTrivia_other hb hcomment]
        rfl

/-- A run of newlines either stops before the end of the first text or goes on in the second. -/
theorem afterNewlines_append (rest more : Bytes) :
    afterNewlines (rest ++ Bytes.newline :: more) = afterNewlines rest ++ Bytes.newline :: more ∨
      afterTrivia (afterNewlines rest) = [] ∧
        afterNewlines (rest ++ Bytes.newline :: more) = afterNewlines more := by
  induction hlength : rest.length using Nat.strong_induction_on generalizing rest with
  | _ n ih =>
    have happend := afterTrivia_append rest more
    cases hfront : afterTrivia rest with
    | nil =>
      rw [hfront, List.nil_append] at happend
      have hstay : afterNewlines rest = rest := afterNewlines_of_other (by simp [hfront])
      exact .inr ⟨by rw [hstay, hfront], afterNewlines_of_newline happend⟩
    | cons b left =>
      rw [hfront, List.cons_append] at happend
      by_cases hb : b = Bytes.newline
      · subst hb
        have hshort := triviaSize_add_length rest
        rw [hfront, List.length_cons] at hshort
        rw [afterNewlines_of_newline happend, afterNewlines_of_newline hfront]
        exact ih left.length (by omega) left rfl
      · have hstay : afterNewlines rest = rest := afterNewlines_of_other (by simp [hfront, hb])
        rw [afterNewlines_of_other (by simp [happend, hb]), hstay]
        exact .inl rfl

private theorem length_joined (text more : Bytes) :
    (text ++ Bytes.newline :: more).length = text.length + 1 + more.length := by
  simp only [List.length_append, List.length_cons]
  omega

/-- The tokens of a text of the given size in a text that goes on with `more` on the next line. -/
def Relocation.joining (file : FileId) (size : Nat) (more : Bytes) : Relocation where
  place := id
  inOrder := monotone_id
  after := some (tokensAt file (size + 1 + more.length) (afterNewlines more))

def Relocation.shift (distance earlier : Nat) : Relocation where
  place := (· + distance)
  inOrder := fun _ _ h => Nat.add_le_add_right h distance
  earlier := earlier

open Relocation

private theorem joining_row (file : FileId) {size : Nat} (more text : Bytes)
    (hsize : text.length ≤ size) : (joining file size more).Row (tokensAt file size text)
      (tokensAt file (size + 1 + more.length) (text ++ Bytes.newline :: more)) := by
  have hsize' : (text ++ Bytes.newline :: more).length ≤ size + 1 + more.length := by
    rw [length_joined]
    omega
  have hsends (left : Bytes) : (joining file size more).Sends size (size + 1 + more.length)
      left (left ++ Bytes.newline :: more) := by
    simp only [Sends, joining, id, length_joined]
    omega
  induction text using lexing_induction with
  | ended text h =>
    have hjoined : afterTrivia (text ++ Bytes.newline :: more) = Bytes.newline :: more := by
      rw [afterTrivia_append, h, List.nil_append]
    obtain ⟨leading, htokens⟩ := tokensAt_read file hsize' hjoined
    rw [tokensAt_ended file hsize h, htokens, afterLexeme_newline]
    exact .seam rfl rfl rfl (by simp) (.inl rfl)
  | read text b rest h ih =>
    have hjoined : afterTrivia (text ++ Bytes.newline :: more) =
        b :: (rest ++ Bytes.newline :: more) := by
      rw [afterTrivia_append, h, List.cons_append]
    have hleft := afterLexeme_length_le h
    have hrow := ih (by omega) (by rw [length_joined]; omega)
    by_cases hb : b = Bytes.newline
    · subst hb
      rw [afterLexeme_newline] at hrow
      rcases afterNewlines_append rest more with hrun | ⟨hblank, hrun⟩
      · apply Row.read hsize hsize' h hjoined ⟨rfl, rfl, rfl⟩ (hsends _)
        · rw [afterLexeme_newline, afterLexeme_newline, hrun]
          exact hsends _
        · rw [afterLexeme_newline, afterLexeme_newline, hrun]
          exact hrow
      · -- The run of newlines at the end of the first text takes the newline between the texts too.
        obtain ⟨leading, htokens⟩ := tokensAt_read file hsize h
        obtain ⟨leading', htokens'⟩ := tokensAt_read file hsize' hjoined
        rw [afterLexeme_newline] at htokens htokens' hleft
        rw [tokensAt_ended file (by omega) hblank] at htokens
        rw [htokens, htokens', hrun]
        exact .seam rfl rfl rfl (by simp [Lexeme.token, Lexeme.ofBytes, Lexeme.newlines])
          (.inr ⟨_, _, rfl, rfl, rfl⟩)
    · have hlater := endsLine_newline more
      apply Row.read hsize hsize' h hjoined
      · rw [Lexeme.ofBytes_append hlater hb]
        exact ⟨rfl, rfl, rfl⟩
      · exact hsends _
      · rw [afterLexeme_append hlater hb]
        exact hsends _
      · rw [afterLexeme_append hlater hb]
        exact hrow

private theorem shift_row (file : FileId) {size : Nat} (distance earlier : Nat) (text : Bytes)
    (hsize : text.length ≤ size) :
    (shift distance earlier).Row (tokensAt file size text)
      (tokensAt file (size + distance) text) := by
  have hsends (left : Bytes) (hleft : left.length ≤ size) :
      (shift distance earlier).Sends size (size + distance) left left := by
    simp only [Sends, shift]
    omega
  induction text using lexing_induction with
  | ended text h => exact Row.ended rfl hsize (by omega) h h rfl
  | read text b rest h ih =>
    have hleft := afterLexeme_length_le h
    have hfront := triviaSize_add_length text
    rw [h] at hfront
    exact Row.read hsize (by omega) h h ⟨rfl, rfl, rfl⟩ (hsends _ (by omega)) (hsends _ (by omega))
      (ih (by omega))

/-! ### Parses -/

namespace Expr

mutual

private theorem moved_id (e : Expr) : e.moved id 0 = e := by
  cases e with
  | absent => rfl
  | node h type value body list =>
    simp only [moved, moved_id type, moved_id value, moved_id body, movedAll_id list]
    simp [ExprHead.moved, Span.moved]

private theorem movedAll_id (list : List Expr) : movedAll id 0 list = list := by
  cases list with
  | nil => rfl
  | cons e rest => rw [movedAll, moved_id e, movedAll_id rest]

end

end Expr

namespace SourceFile

def holding (f : SourceFile) (content : Bytes) : SourceFile := { f with content }

private theorem items_afterNewlines (f : SourceFile) :
    ∃ s : TokenStream,
      (f.stream.skip TokenKind.isSeparator).1 = (s.skip TokenKind.isSeparator).1 ∧
      s.rest = tokensAt f.id f.content.length (afterNewlines f.content) ∧ s.looked = false ∧
      s.made = 0 ∧ s.reports = [] := by
  by_cases hfront : (afterTrivia f.content).head? = some Bytes.newline
  · obtain ⟨more, hmore⟩ := List.head?_eq_some_iff.mp hfront
    obtain ⟨leading, htokens⟩ := tokensAt_read f.id le_rfl hmore
    rw [afterLexeme_newline, ← f.tokens_eq] at htokens
    refine ⟨_, TokenStream.skip_of_cons htokens rfl, ?_, rfl, rfl, ?_⟩
    · rw [afterNewlines_of_newline hmore]
      rfl
    · change [] ++ (f.tokens.head?.bind Token.diagnostic?).toList = []
      rw [htokens]
      rfl
  · refine ⟨f.stream, rfl, ?_, rfl, rfl, rfl⟩
    rw [afterNewlines_of_other hfront]
    exact f.tokens_eq

/-- Behind a text that parses, the parse stands right after the newline between the texts. -/
theorem items_before (f : SourceFile) (before after : Bytes)
    (h : (f.holding before).parse.failed = false) :
    let first := items (f.holding before).stream
    let joined := items (f.holding (before ++ Bytes.newline :: after)).stream
    ∃ u : TokenStream,
      u.rest = tokensAt f.id (before.length + 1 + after.length) (afterNewlines after) ∧
      u.looked = false ∧ u.made = first.last.made ∧ u.reports = [] ∧
      joined.items = first.items ++ (items u).items ∧ joined.last = (items u).last ∧
      joined.failed = (items u).failed := by
  intro first joined
  let m : Relocation := joining f.id before.length after
  let s := (f.holding before).stream
  let s' := (f.holding (before ++ Bytes.newline :: after)).stream
  obtain ⟨-, hfailed, -, hreports⟩ := (f.holding before).parse_items
  have hclean : first.last.reports = [] := by
    rw [← hreports]
    simpa [h] using (f.holding before).parse_failed_iff
  have htracks : m.Tracks False s s' := by
    refine ⟨?_, rfl, rfl, rfl, False.elim⟩
    have hrow := joining_row f.id after before le_rfl
    change m.Row (f.holding before).tokens (f.holding (before ++ Bytes.newline :: after)).tokens
    rw [tokens_eq, tokens_eq]
    simpa only [holding, length_joined] using hrow
  obtain ⟨u, hpast, hitems, hend⟩ := items_continued rfl s s' htracks (hfailed.symm.trans h)
  refine ⟨u, (Option.some.inj hpast.after).symm, hpast.looked, hpast.made, ?_, ?_, hend⟩
  · rw [hpast.reports]
    exact congrArg (List.map (Diagnostic.moved m.place)) hclean
  · have hstay : first.items.map m.expr = first.items := by
      nth_rewrite 2 [← List.map_id first.items]
      exact List.map_congr_left fun e _ => Expr.moved_id e
    rw [← hstay]
    exact hitems

/-- What a parse finds after the newline between two texts is what it finds in the second text. -/
theorem items_after (f : SourceFile) (before : Nat) (content : Bytes) {u : TokenStream}
    (hrest : u.rest = tokensAt f.id (before + 1 + content.length) (afterNewlines content))
    (hlooked : u.looked = false) (hreports : u.reports = []) :
    Moved (shift (before + 1) u.made) (items (f.holding content).stream) (items u) := by
  obtain ⟨s, hskip, hstart, hfresh, hmade, hclean⟩ := (f.holding content).items_afterNewlines
  obtain ⟨hitems, hlast, hfailed⟩ := items_congr hskip
  have hlength : (afterNewlines content).length ≤ content.length := by
    rw [afterNewlines, List.length_drop]
    omega
  have hmoved : Moved (shift (before + 1) u.made) (items s) (items u) := by
    apply items_moved rfl
    constructor
    · rw [hstart, hrest, Nat.add_comm (before + 1)]
      exact shift_row f.id (before + 1) u.made (afterNewlines content) hlength
    · rw [hlooked, hfresh]
    · rw [hmade, Nat.zero_add]
      rfl
    · rw [hreports, hclean]
      rfl
    · exact False.elim
  exact ⟨hitems ▸ hmoved.items, hfailed ▸ hmoved.failed, hlast ▸ hmoved.halts⟩

/-- A text that parses and a text on the lines after it parse as the two do alone. The parse fails
if that of the second text does, with the same reports, and its items are those of the first text
and then those of the second. What comes from the second text has moved by the first text and the
newline and was built after the first text. -/
theorem parse_joined (f : SourceFile) (before after : Bytes)
    (h : (f.holding before).parse.failed = false) :
    let first := (f.holding before).parse
    let second := (f.holding after).parse
    let joined := (f.holding (before ++ Bytes.newline :: after)).parse
    let place (offset : Nat) : Nat := offset + (before.length + 1)
    joined.failed = second.failed ∧
      joined.file.items = first.file.items ++ second.file.items.map (Expr.moved place first.made) ∧
      joined.reports = second.reports.map (Diagnostic.moved place) ∧
      joined.made = first.made + second.made := by
  intro first second joined place
  obtain ⟨hitems₁, -, hmade₁, -⟩ := (f.holding before).parse_items
  obtain ⟨hitems₂, hfailed₂, hmade₂, hreports₂⟩ := (f.holding after).parse_items
  obtain ⟨hitems, hfailed, hmade, hreports⟩ :=
    (f.holding (before ++ Bytes.newline :: after)).parse_items
  obtain ⟨u, hrest, hlooked, hbuilt, hclean, hjoined, hlast, hended⟩ :=
    f.items_before before after h
  have hmoved := f.items_after before.length after hrest hlooked hclean
  rw [hbuilt, ← hmade₁] at hmoved
  rw [hended] at hfailed
  rw [hlast] at hmade hreports
  refine ⟨?_, ?_, ?_, ?_⟩
  · exact hfailed.trans (hmoved.failed.trans hfailed₂.symm)
  · rw [hitems, hjoined, hmoved.items, ← hitems₁, ← hitems₂]
    rfl
  · rw [hreports, hmoved.halts.reports, ← hreports₂]
    rfl
  · rw [hmade, hmoved.halts.made, ← hmade₂]
    exact Nat.add_comm _ _

/-- The first text ends in a comment and blank lines, and the second one has an error. -/
theorem parse_joined_error :
    let f : SourceFile := ⟨0, "a.nkl", [], .virtual⟩
    let before : Bytes := "a :: 1 // one\n \n"
    let after : Bytes := "\nb := a\nc )"
    let second := (f.holding after).parse
    let joined := (f.holding (before ++ Bytes.newline :: after)).parse
    (f.holding before).parse.failed = false ∧ second.failed = true ∧ joined.failed = true ∧
      second.reports.map (·.primary) = [⟨0, 10, 11⟩] ∧
      joined.reports.map (·.primary) = [⟨0, 27, 28⟩] := by
  intro f before after second joined
  have hfirst : (f.holding before).parse.failed = false := by decide +kernel
  have hsecond : second.failed = true := by decide +kernel
  have hplace : second.reports.map (·.primary) = [⟨0, 10, 11⟩] := by decide +kernel
  obtain ⟨hfailed, -, hreports, -⟩ := f.parse_joined before after hfirst
  refine ⟨hfirst, hsecond, hfailed.trans hsecond, hplace, ?_⟩
  have hjoined : joined.reports.map (·.primary) =
      (second.reports.map (·.primary)).map (Span.moved (· + (before.length + 1))) := by
    rw [hreports, List.map_map, List.map_map]
    rfl
  rw [hjoined, hplace]
  decide

end SourceFile

end Keywordless
