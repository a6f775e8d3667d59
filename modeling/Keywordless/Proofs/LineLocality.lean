import Keywordless.Proofs.MovedStreams
import Keywordless.Proofs.Tiling
import Mathlib

/-!
# Lexemes and lines

Only a run of newlines reaches beyond its line. Any other lexeme, and the blanks and the comment
before it, depend on nothing that comes after the end of the line. Tokens are told here by how much
of the text is left after them, which stays the same when the text is continued in front.
-/

namespace Keywordless

/-- The text is over, or its line is. -/
def EndsLine (text : Bytes) : Prop := ∀ b ∈ text.head?, b = Bytes.newline ∨ b = 0x0D

/-! ### Lexemes other than newlines -/

section Local

variable {tail : Bytes}

theorem endsLine_newline (rest : Bytes) : EndsLine (Bytes.newline :: rest) := by
  simp [EndsLine]

private theorem EndsLine.ascii (h : EndsLine tail) : ∀ b ∈ tail.head?, b < 0x80 := by
  intro b hb
  rcases h b hb with rfl | rfl <;> decide

private theorem EndsLine.takeWhile_append (h : EndsLine tail) {p : UInt8 → Bool}
    (hnewline : p Bytes.newline = false) (hreturn : p 0x0D = false) (text : Bytes) :
    (text ++ tail).takeWhile p = text.takeWhile p := by
  induction text with
  | nil =>
    cases tail with
    | nil => rfl
    | cons b rest =>
      have hb : p b = false := by
        rcases h b rfl with rfl | rfl
        · exact hnewline
        · exact hreturn
      simp [hb]
  | cons b text ih => simp only [List.cons_append, List.takeWhile_cons, ih]

theorem EndsLine.head?_append (h : EndsLine tail) {c : UInt8} (hc : c ∉ [Bytes.newline, 0x0D])
    (text : Bytes) : ((text ++ tail).head? == some c) = (text.head? == some c) := by
  cases text with
  | nil =>
    cases tail with
    | nil => rfl
    | cons b rest =>
      have hne : b ≠ c := by
        rintro rfl
        exact hc (by simpa using h b rfl)
      simp [hne]
  | cons b rest => rfl

private theorem identTail_append (h : EndsLine tail) (text : Bytes) :
    identTail (text ++ tail) = identTail text := by
  fun_induction identTail text with
  | case1 =>
    cases tail with
    | nil => rw [List.append_nil, identTail]
    | cons b rest =>
      rw [List.nil_append, identTail]
      rcases h b rfl with rfl | rfl <;> rfl
  | case2 b rest hascii hbyte ih =>
    rw [List.cons_append, identTail, if_pos hascii, if_pos hbyte, ih]
  | case3 b rest hascii hbyte => rw [List.cons_append, identTail, if_pos hascii, if_neg hbyte]
  | case4 b rest hascii step hchar ih =>
    have hstep : Utf8.decode (b :: rest ++ tail) = step :=
      Utf8.decode_append (List.cons_ne_nil b rest) h.ascii
    have hsize : step.2 ≤ (b :: rest).length := Utf8.decode_size_le (List.cons_ne_nil b rest)
    rw [List.cons_append, identTail, if_neg hascii, ← List.cons_append, hstep]
    rw [if_pos hchar, List.drop_append_of_le_length hsize, ih]
  | case5 b rest hascii step hchar =>
    have hstep : Utf8.decode (b :: rest ++ tail) = step :=
      Utf8.decode_append (List.cons_ne_nil b rest) h.ascii
    rw [List.cons_append, identTail, if_neg hascii, ← List.cons_append, hstep, if_neg hchar]

namespace Lexeme

private theorem unknown_append (c : Char) {size : Nat} {source : Bytes}
    (hsize : size ≤ source.length) : unknown c size (source ++ tail) = unknown c size source := by
  rw [unknown, unknown, List.take_append_of_le_length hsize]

private theorem name_append (h : EndsLine tail) {first : Nat} {source : Bytes}
    (hfirst : first ≤ source.length) : name first (source ++ tail) = name first source := by
  have hsize : (name first source).size ≤ source.length := (name_faithful hfirst).size_le
  simp only [name] at hsize ⊢
  rw [List.drop_append_of_le_length hfirst, identTail_append h, List.take_append_of_le_length hsize]

private theorem number_append (h : EndsLine tail) (source : Bytes) :
    number (source ++ tail) = number source := by
  let isDigit (b : UInt8) : Bool := Bytes.isDigit b || b == 0x5F
  have hdigits : (source ++ tail).takeWhile isDigit = source.takeWhile isDigit :=
    h.takeWhile_append rfl rfl source
  have hle : (source.takeWhile isDigit).length ≤ source.length :=
    (List.takeWhile_prefix isDigit).length_le
  have hletters (more : Bytes) :
      (more ++ tail).takeWhile isIdentByte = more.takeWhile isIdentByte :=
    h.takeWhile_append rfl rfl more
  simp only [number, hdigits, List.drop_append_of_le_length hle, hletters, isDigit]

private theorem punctuation_append (h : EndsLine tail) (b : UInt8) (rest : Bytes) :
    punctuation b (rest ++ tail) = punctuation b rest := by
  have harrow : ((rest ++ tail).head? == some 0x3E) = (rest.head? == some 0x3E) :=
    h.head?_append (by decide) rest
  have hunknown (c : Char) : unknown c 1 (b :: (rest ++ tail)) = unknown c 1 (b :: rest) :=
    unknown_append c (by simp : 1 ≤ (b :: rest).length)
  simp only [punctuation, harrow, hunknown]

theorem ofBytes_append (h : EndsLine tail) {b : UInt8} (hb : b ≠ Bytes.newline) (rest : Bytes) :
    ofBytes b (rest ++ tail) = ofBytes b rest := by
  have hdecode : Utf8.decode (b :: rest ++ tail) = Utf8.decode (b :: rest) :=
    Utf8.decode_append (List.cons_ne_nil b rest) h.ascii
  have hsize := Utf8.decode_size_le (List.cons_ne_nil b rest)
  have hne : (b == Bytes.newline) = false := beq_false_of_ne hb
  have hone : 1 ≤ (b :: rest).length := by simp
  simp only [ofBytes, hne, Bool.false_eq_true, if_false, ← List.cons_append, hdecode,
    name_append h hsize, name_append h hone, unknown_append _ hsize, number_append h,
    punctuation_append h]

end Lexeme

end Local

/-! ### What is left of a text -/

def afterTrivia (text : Bytes) : Bytes := text.drop (triviaSize text)

/-- What is left after a newline and the run of newlines that it starts; the first newline is
given. -/
def afterNewlines (rest : Bytes) : Bytes := rest.drop (newlineRun rest - 1)

theorem startsComment_cons (b : UInt8) (rest : Bytes) :
    startsComment (b :: rest) = (b == 0x2F && rest.head? == some 0x2F) := by
  cases rest with
  | nil => simp [startsComment]
  | cons c more =>
    by_cases hslashes : b = 0x2F ∧ c = 0x2F
    · obtain ⟨rfl, rfl⟩ := hslashes
      rfl
    · have hother : (b == 0x2F && c == 0x2F) = false := by simpa using hslashes
      rw [startsComment]
      · simpa using hother.symm
      · grind

theorem triviaSize_add_length (text : Bytes) :
    triviaSize text + (afterTrivia text).length = text.length := by
  have hsplit := congrArg List.length (triviaPieces_append_drop text)
  rw [List.length_append, ← triviaSize_eq_length] at hsplit
  exact hsplit

private theorem afterTrivia_of_pieces {text more : Bytes} {kind : TriviaKind} (piece : Bytes)
    (htext : text = piece ++ more)
    (hpieces : triviaPieces text = (kind, piece) :: triviaPieces more) :
    afterTrivia text = afterTrivia more := by
  have hsize : triviaSize text = piece.length + triviaSize more := by
    simp only [triviaSize_eq_length, hpieces, List.map_cons, List.flatten_cons, List.length_append]
  rw [afterTrivia, hsize, htext, ← List.drop_drop, List.drop_left' rfl]
  rfl

private theorem afterTrivia_of_clear {text : Bytes} (hpieces : triviaPieces text = []) :
    afterTrivia text = text := by
  have hsize : triviaSize text = 0 := by rw [triviaSize_eq_length, hpieces]; rfl
  rw [afterTrivia, hsize, List.drop_zero]

@[simp] theorem afterTrivia_nil : afterTrivia [] = [] := List.drop_nil

@[simp] theorem afterTrivia_newline (rest : Bytes) :
    afterTrivia (Bytes.newline :: rest) = Bytes.newline :: rest := by
  apply afterTrivia_of_clear
  rw [triviaPieces]
  rfl

theorem afterTrivia_blank {b : UInt8} (hb : isBlank b = true) (rest : Bytes) :
    afterTrivia (b :: rest) = afterTrivia rest := by
  have hskip (b : UInt8) (hb : isBlank b = true) (rest : Bytes) :
      afterTrivia (b :: rest) = afterTrivia (rest.dropWhile isBlank) := by
    apply afterTrivia_of_pieces (b :: rest.takeWhile isBlank)
    · rw [List.cons_append, List.takeWhile_append_dropWhile]
    · rw [triviaPieces, if_pos hb]
  rw [hskip b hb]
  cases rest with
  | nil => rfl
  | cons c more =>
    by_cases hc : isBlank c = true
    · rw [hskip c hc, List.dropWhile_cons_of_pos hc]
    · rw [List.dropWhile_cons_of_neg hc]

/-- A comment goes on to the end of its line, where no further blank or comment starts. -/
theorem afterTrivia_comment {b : UInt8} {rest : Bytes} (hb : isBlank b = false)
    (hcomment : startsComment (b :: rest) = true) :
    afterTrivia (b :: rest) = rest.dropWhile (· != Bytes.newline) := by
  have hskip : afterTrivia (b :: rest) = afterTrivia (rest.dropWhile (· != Bytes.newline)) := by
    apply afterTrivia_of_pieces (b :: rest.takeWhile (· != Bytes.newline))
    · rw [List.cons_append, List.takeWhile_append_dropWhile]
    · rw [triviaPieces, if_neg (by simp [hb]), if_pos hcomment]
  rw [hskip, afterTrivia_of_clear (triviaPieces_dropWhile_newline rest)]

theorem afterTrivia_other {b : UInt8} {rest : Bytes} (hb : isBlank b = false)
    (hcomment : startsComment (b :: rest) = false) : afterTrivia (b :: rest) = b :: rest := by
  apply afterTrivia_of_clear
  rw [triviaPieces, if_neg (by simp [hb]), if_neg (by simp [hcomment])]

theorem afterNewlines_of_newline {rest more : Bytes}
    (h : afterTrivia rest = Bytes.newline :: more) : afterNewlines rest = afterNewlines more := by
  have hpos := Lexeme.newlineRun_pos more
  have hrun : newlineRun rest - 1 = triviaSize rest + newlineRun more := by
    unfold afterTrivia at h
    rw [newlineRun]
    split
    · next b more' hdrop =>
      obtain ⟨rfl, rfl⟩ := List.cons.inj (hdrop.symm.trans h)
      rw [if_pos (by rfl)]
      omega
    · next hdrop => cases hdrop.symm.trans h
  rw [afterNewlines, hrun, ← List.drop_drop]
  change (afterTrivia rest).drop _ = _
  obtain ⟨n, hn⟩ := Nat.exists_eq_succ_of_ne_zero hpos.ne'
  rw [h, afterNewlines, hn]
  rfl

theorem afterNewlines_of_other {rest : Bytes} (h : (afterTrivia rest).head? ≠ some Bytes.newline) :
    afterNewlines rest = rest := by
  have hrun : newlineRun rest = 1 := by
    unfold afterTrivia at h
    rw [newlineRun]
    split
    · next b more hdrop =>
      rw [hdrop] at h
      rw [if_neg (by simpa using h)]
    · rfl
  rw [afterNewlines, hrun]
  rfl

def afterLexeme (b : UInt8) (rest : Bytes) : Bytes :=
  (b :: rest).drop (Lexeme.ofBytes b rest).size

theorem afterLexeme_newline (rest : Bytes) :
    afterLexeme Bytes.newline rest = afterNewlines rest := by
  obtain ⟨n, hn⟩ := Nat.exists_eq_succ_of_ne_zero (Lexeme.newlineRun_pos rest).ne'
  change (Bytes.newline :: rest).drop (newlineRun rest) = _
  rw [afterNewlines, hn]
  rfl

theorem size_add_afterLexeme (b : UInt8) (rest : Bytes) :
    (Lexeme.ofBytes b rest).size + (afterLexeme b rest).length = (b :: rest).length := by
  have hle := (Lexeme.ofBytes_faithful b rest).size_le
  rw [afterLexeme, List.length_drop]
  omega

theorem afterLexeme_append {tail : Bytes} (h : EndsLine tail) {b : UInt8}
    (hb : b ≠ Bytes.newline) (rest : Bytes) :
    afterLexeme b (rest ++ tail) = afterLexeme b rest ++ tail := by
  rw [afterLexeme, Lexeme.ofBytes_append h hb, ← List.cons_append]
  exact List.drop_append_of_le_length (Lexeme.ofBytes_faithful b rest).size_le

/-! ### Tokens by what is left -/

/-- The tokens of the last part of a file of the given size. -/
def tokensAt (file : FileId) (size : Nat) (text : Bytes)
    (nfc : Bytes → Bytes := Normal.compose) : List Token :=
  tokensFrom file (size - text.length) text nfc

def Lexeme.token (l : Lexeme) (span : Span) (leading : List Trivia) : Token :=
  { kind := l.kind, span, text := l.text, leading, error := l.error }

/-- Normalisation has a say in nothing but the texts of names. -/
theorem Lexeme.ofBytes_nfc (b : UInt8) (rest : Bytes) (nfc : Bytes → Bytes) :
    (ofBytes b rest nfc).kind = (ofBytes b rest).kind ∧
      (ofBytes b rest nfc).size = (ofBytes b rest).size := by
  unfold ofBytes
  split
  · exact ⟨rfl, rfl⟩
  split
  · exact ⟨rfl, rfl⟩
  split
  · dsimp only
    split <;> exact ⟨rfl, rfl⟩
  · exact ⟨rfl, rfl⟩

section Tokens

variable {size : Nat} {text : Bytes}

theorem tokensAt_ended (file : FileId) (hsize : text.length ≤ size) (h : afterTrivia text = [])
    (nfc : Bytes → Bytes := Normal.compose) :
    tokensAt file size text nfc = [{ kind := .endOfFile, span := ⟨file, size, size⟩ }] := by
  have hall := triviaSize_add_length text
  have hstart : size - text.length + triviaSize text = size := by
    rw [h, List.length_nil] at hall
    omega
  have hscan : scanToken file (size - text.length) text nfc =
      ⟨{ kind := .endOfFile, span := ⟨file, size, size⟩ }, size, []⟩ := by
    unfold afterTrivia at h
    simp only [scanToken, h, hstart]
  rw [tokensAt, tokensFrom, hscan]
  rfl

theorem tokensAt_read (file : FileId) (hsize : text.length ≤ size) {b : UInt8} {rest : Bytes}
    (h : afterTrivia text = b :: rest) (nfc : Bytes → Bytes := Normal.compose) :
    ∃ leading, tokensAt file size text nfc =
      (Lexeme.ofBytes b rest nfc).token
          ⟨file, size - (b :: rest).length, size - (afterLexeme b rest).length⟩ leading ::
        tokensAt file size (afterLexeme b rest) nfc := by
  obtain ⟨hkind, hwidth⟩ := Lexeme.ofBytes_nfc b rest nfc
  have hall := triviaSize_add_length text
  have hleft := size_add_afterLexeme b rest
  rw [h] at hall
  have hstart : size - text.length + triviaSize text = size - (b :: rest).length := by omega
  have hstop : size - (b :: rest).length + (Lexeme.ofBytes b rest).size =
      size - (afterLexeme b rest).length := by omega
  have hscan : scanToken file (size - text.length) text nfc =
      ⟨(Lexeme.ofBytes b rest nfc).token
          ⟨file, size - (b :: rest).length, size - (afterLexeme b rest).length⟩
          (placeTrivia file (size - text.length) (triviaPieces text)),
        size - (afterLexeme b rest).length, afterLexeme b rest⟩ := by
    unfold afterTrivia at h
    simp only [scanToken, h, hstart, hwidth, hstop]
    rfl
  have hother : (Lexeme.ofBytes b rest nfc).kind ≠ .endOfFile := by
    rw [hkind]
    exact (Lexeme.ofBytes_faithful b rest).kind_ne
  refine ⟨placeTrivia file (size - text.length) (triviaPieces text), ?_⟩
  rw [tokensAt, tokensFrom, hscan]
  exact dif_neg hother

theorem SourceFile.tokens_eq (f : SourceFile) (nfc : Bytes → Bytes := Normal.compose) :
    f.tokens nfc = tokensAt f.id f.content.length f.content nfc := by
  rw [tokensAt, Nat.sub_self]
  rfl

@[elab_as_elim] theorem lexing_induction {motive : Bytes → Prop}
    (ended : ∀ text, afterTrivia text = [] → motive text)
    (read : ∀ text b rest, afterTrivia text = b :: rest → motive (afterLexeme b rest) → motive text)
    (text : Bytes) : motive text := by
  induction hlength : text.length using Nat.strong_induction_on generalizing text with
  | _ n ih =>
    cases hfront : afterTrivia text with
    | nil => exact ended text hfront
    | cons b rest =>
      apply read text b rest hfront
      have hall := triviaSize_add_length text
      have hleft := size_add_afterLexeme b rest
      have hpos := Lexeme.size_pos b rest
      rw [hfront] at hall
      exact ih _ (by omega) _ rfl

theorem afterLexeme_length_le {b : UInt8} {rest : Bytes} (h : afterTrivia text = b :: rest) :
    (afterLexeme b rest).length ≤ text.length := by
  have hall := triviaSize_add_length text
  have hleft := size_add_afterLexeme b rest
  rw [h] at hall
  omega

end Tokens

/-! ### The same tokens in another text -/

structure Lexeme.Alike (l l' : Lexeme) : Prop where
  kind : l'.kind = l.kind
  text : l'.text = l.text
  error : l'.error = l.error

namespace Relocation

variable {m : Relocation}

/-- The point before `left` in a file of one size goes to the point before `left'` in a file of
another. -/
def Sends (m : Relocation) (size size' : Nat) (left left' : Bytes) : Prop :=
  m.place (size - left.length) = size' - left'.length

/-- If both texts start with the same lexeme, their tokens go on alike when those behind it do. -/
theorem Row.read {file : FileId} {size size' : Nat} {text text' : Bytes} {b : UInt8}
    {rest rest' : Bytes} (hsize : text.length ≤ size) (hsize' : text'.length ≤ size')
    (h : afterTrivia text = b :: rest) (h' : afterTrivia text' = b :: rest')
    (halike : (Lexeme.ofBytes b rest).Alike (Lexeme.ofBytes b rest'))
    (hstart : m.Sends size size' (b :: rest) (b :: rest'))
    (hstop : m.Sends size size' (afterLexeme b rest) (afterLexeme b rest'))
    (hrow : m.Row (tokensAt file size (afterLexeme b rest))
      (tokensAt file size' (afterLexeme b rest'))) :
    m.Row (tokensAt file size text) (tokensAt file size' text') := by
  obtain ⟨leading, htokens⟩ := tokensAt_read file hsize h
  obtain ⟨leading', htokens'⟩ := tokensAt_read file hsize' h'
  rw [htokens, htokens']
  refine .cons ⟨halike.kind, halike.text, halike.error, ?_⟩ (fun _ => ?_) hrow
  · simp only [Lexeme.token, Span.moved, hstart.symm, hstop.symm]
  · exact (Lexeme.ofBytes_faithful b rest).kind_ne

theorem Row.ended (hwhole : m.after = none) {file : FileId} {size size' : Nat} {text text' : Bytes}
    (hsize : text.length ≤ size) (hsize' : text'.length ≤ size') (h : afterTrivia text = [])
    (h' : afterTrivia text' = []) (hend : m.place size = size') :
    m.Row (tokensAt file size text) (tokensAt file size' text') := by
  rw [tokensAt_ended file hsize h, tokensAt_ended file hsize' h']
  refine .cons ⟨rfl, rfl, rfl, ?_⟩ (fun hseam => absurd hwhole hseam) (.nil hwhole)
  simp only [Span.moved, hend]

end Relocation

end Keywordless
