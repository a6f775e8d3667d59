import Keywordless.Token.Lexer
import Mathlib

/-!
# Tokens tile their file

Nothing of a file is lost between its tokens and nothing is read twice: the spans of blanks,
comments and tokens follow one another without a gap, and what no token takes is blank.
-/

namespace Keywordless

inductive BlankText : Bytes → Prop
  | nil : BlankText []
  | blank {b : UInt8} {rest : Bytes} (byte : b ∈ [0x20, 0x09, 0x0D]) (more : BlankText rest) :
      BlankText (b :: rest)
  | comment {body : Bytes} (line : Bytes.newline ∉ body) : BlankText (0x2F :: 0x2F :: body)

/-- The spans are not empty, and each starts where the one before it stops, from `start` on. -/
def Tiles (file : FileId) : Nat → List Span → Nat → Prop
  | start, [], stop => start = stop
  | start, span :: rest, stop =>
    span.file = file ∧ span.start = start ∧ start < span.stop ∧ Tiles file span.stop rest stop

def Token.tiles (t : Token) : List Span := t.leading.map Trivia.span ++ [t.span]

/-- The texts of a token and of what stands before it are what the file has there. A run of newlines
has the text of one, and a name outside ASCII is composed. -/
def Token.Quotes (f : SourceFile) (t : Token) : Prop :=
  (∀ piece ∈ t.leading, piece.text = f.slice piece.span) ∧
    (t.kind ≠ .newline → (t.kind = .ident → Bytes.isAsciiText (f.slice t.span)) →
      t.text = f.slice t.span)

theorem tiles_append_iff {file : FileId} {start stop : Nat} {spans more : List Span} :
    Tiles file start (spans ++ more) stop ↔
      ∃ middle, Tiles file start spans middle ∧ Tiles file middle more stop := by
  induction spans generalizing start with
  | nil => simp [Tiles]
  | cons span rest ih => simp only [List.cons_append, Tiles, ih, ← exists_and_left, and_assoc]

private theorem SourceFile.slice_of_drop {f : SourceFile} {file : FileId} {start : Nat}
    {text rest : Bytes} (h : f.content.drop start = text ++ rest) :
    f.slice ⟨file, start, start + text.length⟩ = text := by
  have hlength : f.content.length - start = text.length + rest.length := by
    simpa using congrArg List.length h
  unfold slice
  by_cases hin : start ≤ f.content.length
  · have hstop : min (start + text.length) f.content.length = start + text.length := by omega
    simp [hstop, h]
  · obtain rfl : text = [] := List.length_eq_zero_iff.mp (by omega)
    simp

/-! ### Blanks and comments -/

theorem triviaSize_eq_length (text : Bytes) :
    triviaSize text = ((triviaPieces text).map Prod.snd).flatten.length := by
  rw [triviaSize, ← List.sum_eq_foldl, List.length_flatten, List.map_map]
  rfl

private theorem takeWhile_append_prefix {p : UInt8 → Bool} {rest more : Bytes}
    (h : more <+: rest.dropWhile p) : rest.takeWhile p ++ more <+: rest := by
  have happend := (List.prefix_append_right_inj (rest.takeWhile p)).mpr h
  rwa [List.takeWhile_append_dropWhile] at happend

theorem triviaPieces_append_drop (text : Bytes) :
    ((triviaPieces text).map Prod.snd).flatten ++ text.drop (triviaSize text) = text := by
  have hpieces : ((triviaPieces text).map Prod.snd).flatten <+: text := by
    fun_induction triviaPieces text with
    | case1 => exact List.nil_prefix
    | case2 b rest hblank ih =>
      exact List.cons_prefix_cons.mpr ⟨rfl, takeWhile_append_prefix ih⟩
    | case3 b rest hblank hcomment ih =>
      exact List.cons_prefix_cons.mpr ⟨rfl, takeWhile_append_prefix ih⟩
    | case4 b rest hblank hcomment => exact List.nil_prefix
  rw [triviaSize_eq_length]
  exact (List.prefix_append_drop hpieces).symm

private theorem triviaPieces_ne_nil (text : Bytes) : ∀ piece ∈ triviaPieces text, piece.2 ≠ [] := by
  fun_induction triviaPieces text with
  | case1 => simp
  | case2 b rest hblank ih => exact List.forall_mem_cons.mpr ⟨List.cons_ne_nil _ _, ih⟩
  | case3 b rest hblank hcomment ih => exact List.forall_mem_cons.mpr ⟨List.cons_ne_nil _ _, ih⟩
  | case4 b rest hblank hcomment => simp

private theorem mem_of_isBlank {b : UInt8} (h : isBlank b) : b ∈ ([0x20, 0x09, 0x0D] : Bytes) := by
  simpa [isBlank, or_assoc] using h

private theorem BlankText.append {blanks rest : Bytes} (hblanks : ∀ b ∈ blanks, isBlank b)
    (hrest : BlankText rest) : BlankText (blanks ++ rest) := by
  induction blanks with
  | nil => exact hrest
  | cons b blanks ih =>
    obtain ⟨hb, hmore⟩ := List.forall_mem_cons.mp hblanks
    exact .blank (mem_of_isBlank hb) (ih hmore)

/-- A comment ends before a newline, where no further blank or comment starts. -/
theorem triviaPieces_dropWhile_newline (rest : Bytes) :
    triviaPieces (rest.dropWhile (· != Bytes.newline)) = [] := by
  cases h : rest.dropWhile (· != Bytes.newline) with
  | nil => rw [triviaPieces]
  | cons b more =>
    have hb : b = Bytes.newline := by
      have hhead := List.head?_dropWhile_not (· != Bytes.newline) rest
      simpa [h] using hhead
    subst hb
    rw [triviaPieces]
    rfl

private theorem blankText_of_drop {text : Bytes} (h : text.drop (triviaSize text) = []) :
    BlankText text := by
  have hall : text = ((triviaPieces text).map Prod.snd).flatten := by
    simpa [h] using (triviaPieces_append_drop text).symm
  clear h
  fun_induction triviaPieces text with
  | case1 => exact .nil
  | case2 b rest hblank ih =>
    have hdrop : rest.dropWhile isBlank =
        ((triviaPieces (rest.dropWhile isBlank)).map Prod.snd).flatten := by
      apply List.append_cancel_left
      exact List.takeWhile_append_dropWhile.trans (List.cons.inj hall).2
    have hblanks (c : UInt8) (hc : c ∈ rest.takeWhile isBlank) : isBlank c :=
      List.mem_takeWhile_imp hc
    have hrest := BlankText.append hblanks (ih hdrop)
    rw [List.takeWhile_append_dropWhile] at hrest
    exact .blank (mem_of_isBlank hblank) hrest
  | case3 b rest hblank hcomment ih =>
    rw [List.map_cons, triviaPieces_dropWhile_newline] at hall
    have hline : Bytes.newline ∉ rest := by
      intro hmem
      rw [show rest = rest.takeWhile (· != Bytes.newline) by simpa using (List.cons.inj hall).2]
        at hmem
      simpa using List.mem_takeWhile_imp hmem
    unfold startsComment at hcomment
    split at hcomment
    · next body heq =>
      obtain ⟨rfl, rfl⟩ := List.cons.inj heq
      exact .comment fun hmem => hline (List.mem_cons_of_mem _ hmem)
    · cases hcomment
  | case4 b rest hblank hcomment => simp at hall

private theorem placeTrivia_tiles (file : FileId) (start : Nat) {pieces : List (TriviaKind × Bytes)}
    (h : ∀ piece ∈ pieces, piece.2 ≠ []) :
    Tiles file start ((placeTrivia file start pieces).map Trivia.span)
      (start + (pieces.map Prod.snd).flatten.length) := by
  induction pieces generalizing start with
  | nil => exact rfl
  | cons piece rest ih =>
    obtain ⟨hpiece, hrest⟩ := List.forall_mem_cons.mp h
    have hlt : 0 < piece.2.length := List.length_pos_of_ne_nil hpiece
    refine ⟨rfl, rfl, by change start < start + piece.2.length; omega, ?_⟩
    rw [List.map_cons, List.flatten_cons, List.length_append, ← Nat.add_assoc]
    exact ih (start + piece.2.length) hrest

private theorem placeTrivia_quotes {f : SourceFile} {start : Nat}
    {pieces : List (TriviaKind × Bytes)}
    {rest : Bytes} (h : f.content.drop start = (pieces.map Prod.snd).flatten ++ rest) :
    ∀ piece ∈ placeTrivia f.id start pieces, piece.text = f.slice piece.span := by
  induction pieces generalizing start with
  | nil => simp [placeTrivia]
  | cons piece more ih =>
    rw [List.map_cons, List.flatten_cons, List.append_assoc] at h
    refine List.forall_mem_cons.mpr ⟨(SourceFile.slice_of_drop h).symm, ih ?_⟩
    rw [← List.drop_drop, h, List.drop_left' rfl]

/-! ### Lexemes -/

theorem Utf8.decode_size_le {text : Bytes} (h : text ≠ []) : (decode text).2 ≤ text.length := by
  have hpos : 0 < text.length := List.length_pos_of_ne_nil h
  unfold decode
  cases hstep : decode? text with
  | none => exact hpos
  | some step =>
    cases text with
    | nil => cases hstep
    | cons b rest =>
      simp only [decode?] at hstep
      grind

private theorem identTail_le (text : Bytes) : identTail text ≤ text.length := by
  fun_induction identTail text with
  | case1 => simp
  | case2 b rest hascii hbyte ih =>
    rw [List.length_cons]
    omega
  | case3 => simp
  | case4 b rest hascii step hchar ih =>
    have hstep : step.2 ≤ (b :: rest).length := Utf8.decode_size_le (List.cons_ne_nil b rest)
    rw [List.length_drop] at ih
    omega
  | case5 => simp

private theorem newlineRun_le (rest : Bytes) : newlineRun rest ≤ 1 + rest.length := by
  fun_induction newlineRun rest with
  | case1 rest skipped b more hdrop hnewline ih =>
    have hlength : rest.length - skipped = more.length + 1 := by
      simpa using congrArg List.length hdrop
    omega
  | case2 => omega
  | case3 => omega

theorem TokenKind.isPunctuation_of_ofByte? {b : UInt8} {kind : TokenKind}
    (h : ofByte? b = some kind) : kind.isPunctuation := by
  unfold ofByte? at h
  split at h <;> first
    | (obtain rfl := Option.some.inj h; rfl)
    | cases h

namespace Lexeme

/-- What a lexeme may be: it takes no more bytes than there are and does not end the file. Its text
is what it takes, runs of newlines and names outside ASCII apart. -/
structure Faithful (source : Bytes) (l : Lexeme) : Prop where
  size_le : l.size ≤ source.length
  kind_ne : l.kind ≠ .endOfFile
  text : l.kind ≠ .newline → (l.kind = .ident → Bytes.isAsciiText (source.take l.size)) →
    l.text = source.take l.size

private theorem unknown_faithful (c : Char) {size : Nat} {source : Bytes}
    (h : size ≤ source.length) : (unknown c size source).Faithful source :=
  ⟨h, nofun, fun _ _ => rfl⟩

private theorem newlines_faithful (rest : Bytes) :
    (newlines rest).Faithful (Bytes.newline :: rest) := by
  refine ⟨?_, nofun, fun h => absurd rfl h⟩
  have hle := newlineRun_le rest
  rw [List.length_cons]
  change newlineRun rest ≤ _
  omega

theorem name_faithful {first : Nat} {source : Bytes} (h : first ≤ source.length) :
    (name first source).Faithful source := by
  refine ⟨?_, nofun, fun _ hascii => ?_⟩
  · have hle := identTail_le (source.drop first)
    rw [List.length_drop] at hle
    change first + identTail (source.drop first) ≤ _
    omega
  · exact if_pos (hascii rfl)

private theorem number_faithful (source : Bytes) : (number source).Faithful source := by
  unfold number
  extract_lets digits letters
  have hdigits : digits <+: source := List.takeWhile_prefix _
  have hletters : letters <+: source.drop digits.length := List.takeWhile_prefix _
  have hboth : digits ++ letters <+: source := by
    have happend := (List.prefix_append_right_inj digits).mpr hletters
    rwa [← List.prefix_append_drop hdigits] at happend
  split
  · exact ⟨hdigits.length_le, nofun, fun _ _ => List.prefix_iff_eq_take.mp hdigits⟩
  · refine ⟨?_, nofun, fun _ _ => ?_⟩
    · simpa using hboth.length_le
    · simpa using List.prefix_iff_eq_take.mp hboth

private theorem punctuation_faithful (b : UInt8) (rest : Bytes) :
    (punctuation b rest).Faithful (b :: rest) := by
  unfold punctuation
  split
  · next harrow =>
    obtain ⟨hb, hhead⟩ := Bool.and_eq_true_iff.mp harrow
    obtain ⟨more, hmore⟩ := List.head?_eq_some_iff.mp (beq_iff_eq.mp hhead)
    rw [beq_iff_eq.mp hb, hmore]
    exact ⟨by simp, nofun, fun _ _ => rfl⟩
  · split
    · next kind hkind =>
      have hpunctuation := TokenKind.isPunctuation_of_ofByte? hkind
      refine ⟨by simp, ?_, fun _ _ => rfl⟩
      rintro rfl
      cases hpunctuation
    · exact unknown_faithful _ (by simp)

theorem ofBytes_faithful (b : UInt8) (rest : Bytes) : (ofBytes b rest).Faithful (b :: rest) := by
  have hdecode := Utf8.decode_size_le (List.cons_ne_nil b rest)
  unfold ofBytes
  split
  · next hnewline =>
    rw [beq_iff_eq.mp hnewline]
    exact newlines_faithful rest
  · split
    · exact name_faithful (by simp)
    · split
      · dsimp only
        split
        · exact name_faithful hdecode
        · exact unknown_faithful _ hdecode
      · split
        · exact number_faithful _
        · exact punctuation_faithful b rest

end Lexeme

/-! ### Files -/

/-- What one step of the lexer reads of the text that is left from `offset` on. -/
inductive ScanStep (f : SourceFile) (offset : Nat) (text : Bytes) : Scanned → Prop
  | ended (blank : BlankText text) : ScanStep f offset text
      ⟨{ kind := .endOfFile, span := ⟨f.id, offset + text.length, offset + text.length⟩ },
        offset + text.length, []⟩
  | read {token : Token} {size : Nat} (kind : token.kind ≠ .endOfFile)
      (tiles : Tiles f.id offset token.tiles (offset + size)) (size_le : size ≤ text.length)
      (quotes : token.Quotes f) : ScanStep f offset text ⟨token, offset + size, text.drop size⟩

private theorem scanToken_step {f : SourceFile} {offset : Nat} {text : Bytes}
    (h : f.content.drop offset = text) : ScanStep f offset text (scanToken f.id offset text) := by
  have hsplit := triviaPieces_append_drop text
  unfold scanToken
  extract_lets pieces start
  split
  · next hend =>
    have hall : text.length = triviaSize text := by
      rw [hend, List.append_nil] at hsplit
      rw [triviaSize_eq_length, hsplit]
    subst start
    rw [← hall]
    exact .ended (blankText_of_drop hend)
  · next b rest hfront =>
    let lexeme := Lexeme.ofBytes b rest
    have hfaithful : lexeme.Faithful (b :: rest) := Lexeme.ofBytes_faithful b rest
    have hfound : f.content.drop start = b :: rest := by
      rw [← List.drop_drop, h, hfront]
    have hslice : f.slice ⟨f.id, start, start + lexeme.size⟩ = (b :: rest).take lexeme.size := by
      have htaken : ((b :: rest).take lexeme.size).length = lexeme.size :=
        List.length_take_of_le hfaithful.size_le
      rw [← List.take_append_drop lexeme.size (b :: rest)] at hfound
      nth_rewrite 1 [← htaken]
      exact SourceFile.slice_of_drop hfound
    have hstop : start + lexeme.size = offset + (triviaSize text + lexeme.size) :=
      Nat.add_assoc _ _ _
    have hrest : (b :: rest).drop lexeme.size = text.drop (triviaSize text + lexeme.size) := by
      rw [← hfront, List.drop_drop]
    have hlength : text.length - triviaSize text = rest.length + 1 := by
      simpa using congrArg List.length hfront
    have hsize := hfaithful.size_le
    rw [List.length_cons] at hsize
    dsimp only
    rw [hstop, hrest]
    refine .read hfaithful.kind_ne ?_ (by omega) ⟨?_, fun hnewline hident => ?_⟩
    · refine tiles_append_iff.mpr ⟨_, placeTrivia_tiles f.id offset (triviaPieces_ne_nil text), ?_⟩
      rw [← triviaSize_eq_length]
      have hpos : 0 < lexeme.size := Lexeme.size_pos b rest
      have hlt : offset + triviaSize text < offset + (triviaSize text + lexeme.size) := by omega
      exact ⟨rfl, rfl, hlt, rfl⟩
    · exact placeTrivia_quotes (h.trans hsplit.symm)
    · rw [← hstop, hslice] at hident ⊢
      exact hfaithful.text hnewline hident

theorem tokensFrom_tiles {f : SourceFile} {offset : Nat} {text : Bytes}
    (h : f.content.drop offset = text) (hoffset : offset ≤ f.content.length) :
    let size := f.content.length
    ∃ before stop, tokensFrom f.id offset text =
        before ++ [{ kind := .endOfFile, span := ⟨f.id, size, size⟩ }] ∧
      (∀ t ∈ before, t.kind ≠ .endOfFile ∧ t.Quotes f) ∧
      Tiles f.id offset (before.flatMap Token.tiles) stop ∧ stop ≤ size ∧
      BlankText (f.content.drop stop) := by
  fun_induction tokensFrom f.id offset text with
  | case1 offset text scanned hend =>
    have hstep : ScanStep f offset text scanned := scanToken_step h
    have hlength : f.content.length - offset = text.length := by
      simpa using congrArg List.length h
    generalize scanned = result at hstep hend
    cases hstep with
    | ended hblank =>
      refine ⟨[], offset, ?_, by simp, rfl, hoffset, h ▸ hblank⟩
      rw [show offset + text.length = f.content.length by omega]
      rfl
    | read hkind _ _ _ => exact absurd hend hkind
  | case2 offset text scanned hmore ih =>
    have hstep : ScanStep f offset text scanned := scanToken_step h
    have hlength : f.content.length - offset = text.length := by
      simpa using congrArg List.length h
    generalize scanned = result at hstep hmore ih
    cases hstep with
    | ended _ => exact absurd rfl hmore
    | @read token size hkind htiles hsize hquotes =>
      have hrest : f.content.drop (offset + size) = text.drop size := by
        rw [← List.drop_drop, h]
      have hend : offset + size ≤ f.content.length := by omega
      obtain ⟨before, stop, htokens, hbefore, hmoreTiles, hleft⟩ := ih hrest hend
      refine ⟨token :: before, stop, ?_, ?_, ?_, hleft⟩
      · exact congrArg (token :: ·) htokens
      · exact List.forall_mem_cons.mpr ⟨⟨hkind, hquotes⟩, hbefore⟩
      · exact tiles_append_iff.mpr ⟨_, htiles, hmoreTiles⟩

private theorem Tiles.lt {file : FileId} {start stop : Nat} {spans : List Span}
    (h : Tiles file start spans stop) : ∀ span ∈ spans, span.start < span.stop := by
  induction spans generalizing start with
  | nil => simp
  | cons span rest ih =>
    obtain ⟨-, rfl, hlt, hrest⟩ := h
    exact List.forall_mem_cons.mpr ⟨hlt, ih hrest⟩

private theorem Tiles.stop_eq {file : FileId} {start stop : Nat} {tokens : List Token}
    (h : Tiles file start (tokens.flatMap Token.tiles) stop) :
    stop = (tokens.getLast?.map (·.span.stop)).getD start := by
  induction tokens generalizing start with
  | nil => exact h.symm
  | cons t rest ih =>
    obtain ⟨middle, htoken, hrest⟩ := tiles_append_iff.mp h
    obtain ⟨_, -, -, -, -, rfl⟩ := tiles_append_iff.mp htoken
    rw [ih hrest, List.getLast?_cons]
    cases rest.getLast? <;> rfl

namespace Lexer

/-- A lexer that looked at nothing yet hands out every token that is left. -/
theorem drain_eq_tokensFrom {lx : Lexer} {budget : Nat} (hlook : lx.look = none)
    (hbudget : lx.rest.length < budget) :
    (lx.drain budget).1 = tokensFrom lx.file lx.offset lx.rest := by
  induction budget generalizing lx with
  | zero => omega
  | succ budget ih =>
    have hnext : lx.next.1 = (scanToken lx.file lx.offset lx.rest).token := by
      simp [next, hlook]
    rw [drain, tokensFrom]
    by_cases hend : (scanToken lx.file lx.offset lx.rest).token.kind = .endOfFile
    · simp [hnext, hend]
    · have hshorter := scanToken_rest_lt hend
      have hrest := @ih lx.next.2 (by simp [next, hlook]) (by simp [next, hlook]; omega)
      simp only [hnext, hend, beq_iff_eq, if_false, dif_neg, not_false_eq_true, hrest]
      simp [next, hlook]

theorem all_ofFile (f : SourceFile) : (ofFile f).all.1 = f.tokens :=
  drain_eq_tokensFrom rfl (by simp [ofFile])

end Lexer

/-- Lexing a file ends, with one token for its end. The spans of the other tokens and of what stands
before them start at the beginning of the file and follow one another without a gap, and only
blanks are left after the last of them. Texts are what the file has at their spans. -/
theorem SourceFile.lex_tiles (f : SourceFile) :
    let size := f.content.length
    ∃ before stop, (Lexer.ofFile f).all.1 =
        before ++ [{ kind := .endOfFile, span := ⟨f.id, size, size⟩ }] ∧
      (∀ t ∈ before, t.kind ≠ .endOfFile ∧ t.span.start < t.span.stop) ∧
      Tiles f.id 0 (before.flatMap Token.tiles) stop ∧
      stop = (before.getLast?.map (·.span.stop)).getD 0 ∧ stop ≤ size ∧
      BlankText (f.content.drop stop) ∧
      ∀ t ∈ (Lexer.ofFile f).all.1, t.Quotes f := by
  intro size
  rw [Lexer.all_ofFile]
  have hfile : f.content.drop 0 = f.content := rfl
  obtain ⟨before, stop, htokens, hbefore, htiles, hstop, hblank⟩ :=
    tokensFrom_tiles hfile (Nat.zero_le _)
  refine ⟨before, stop, htokens, ?_, htiles, htiles.stop_eq, hstop, hblank, ?_⟩
  · intro t ht
    have hspan : t.span ∈ before.flatMap Token.tiles :=
      List.mem_flatMap.mpr ⟨t, ht, List.mem_append_right _ List.mem_cons_self⟩
    exact ⟨(hbefore t ht).1, htiles.lt t.span hspan⟩
  · intro t ht
    rw [SourceFile.tokens, htokens] at ht
    obtain ht | ht := List.mem_append.mp ht
    · exact (hbefore t ht).2
    · obtain rfl := List.mem_singleton.mp ht
      exact ⟨by simp, fun _ _ => by simp [SourceFile.slice]⟩

end Keywordless
