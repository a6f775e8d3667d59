import Keywordless.Proofs.LineLocality
import Mathlib

/-!
# Where words end

Names and numbers are words, and a word goes on as far as it can. So two words never touch, with one
exception: the letters that a number runs into make it malformed only if they are in ASCII, and a
name may start with a letter of another script right behind a number.
-/

namespace Keywordless

def TokenKind.isWord (k : TokenKind) : Bool := k == .ident || k == .intLit

def continuesName : Bytes → Bool
  | [] => false
  | b :: rest =>
    if b < Bytes.asciiLimit then isIdentByte b else isIdentChar (Utf8.decode (b :: rest)).1

def StartsForeign (text : Bytes) : Prop :=
  (∃ b ∈ text.head?, Bytes.asciiLimit ≤ b) ∧ CharSet.letters.has (Utf8.decode text).1.toNat = true

/-- Digits with underscores between them at the front of the text, and what follows them. -/
structure DigitRun (text digits next : Bytes) : Prop where
  split : text = digits ++ next
  first : ∃ b ∈ digits.head?, Bytes.isDigit b = true
  body : ∀ b ∈ digits, (Bytes.isDigit b || b == 0x5F) = true
  stop : ∀ b ∈ next.head?, (Bytes.isDigit b || b == 0x5F) = false

/-! ### Bytes -/

private theorem isIdentByte_eq (b : UInt8) :
    isIdentByte b = (Bytes.isUpper b || Bytes.isLower b || (Bytes.isDigit b || b == 0x5F)) := by
  simp only [isIdentByte, isIdentStartByte]
  cases b == 0x5F <;> cases Bytes.isUpper b <;> cases Bytes.isLower b <;> simp

private theorem isDigit_ascii {b : UInt8} (h : Bytes.isDigit b = true) : b < Bytes.asciiLimit := by
  simp only [Bytes.isDigit, Bytes.asciiLimit, Bool.and_eq_true, decide_eq_true_eq] at h ⊢
  grind

private theorem isIdentStartByte_of_isDigit {b : UInt8} (h : Bytes.isDigit b = true) :
    isIdentStartByte b = false := by
  simp only [Bytes.isDigit, isIdentStartByte, Bytes.isUpper, Bytes.isLower, Bool.and_eq_true,
    decide_eq_true_eq] at h ⊢
  grind

theorem isIdentStartByte_ascii {b : UInt8} (h : isIdentStartByte b = true) :
    b < Bytes.asciiLimit := by
  simp only [isIdentStartByte, Bytes.isUpper, Bytes.isLower, Bytes.asciiLimit, Bool.and_eq_true,
    Bool.or_eq_true, decide_eq_true_eq, beq_iff_eq] at h ⊢
  grind

theorem isIdentByte_ascii {b : UInt8} (h : isIdentByte b = true) : b < Bytes.asciiLimit := by
  rcases Bool.or_eq_true_iff.mp h with hstart | hdigit
  · exact isIdentStartByte_ascii hstart
  · exact isDigit_ascii hdigit

theorem isIdentStart_foreign {b : UInt8} (hb : Bytes.asciiLimit ≤ b) (rest : Bytes) :
    isIdentStart (Utf8.decode (b :: rest)).1 =
      CharSet.letters.has (Utf8.decode (b :: rest)).1.toNat := by
  have hne : (Utf8.decode (b :: rest)).1 ≠ '_' := by
    unfold Utf8.decode
    cases hstep : Utf8.decode? (b :: rest) with
    | none => decide
    | some step =>
      have hlow := Utf8.decode?_foreign (c := step.1) hb hstep
      intro hunderscore
      change step.1 = '_' at hunderscore
      rw [hunderscore] at hlow
      revert hlow
      decide
  simp [isIdentStart, hne]

theorem afterTrivia_start {b : UInt8} (h : isIdentStartByte b = true ∨ Bytes.asciiLimit ≤ b)
    (rest : Bytes) : afterTrivia (b :: rest) = b :: rest := by
  have hblank : isBlank b = false := by
    by_contra hblank
    revert h
    simp only [isBlank, Bool.not_eq_false, Bool.or_eq_true, beq_iff_eq] at hblank
    rcases hblank with (rfl | rfl) | rfl <;> decide
  have hcomment : startsComment (b :: rest) = false := by
    have hslash : b ≠ 0x2F := by
      rintro rfl
      revert h
      decide
    simp [startsComment_cons, hslash]
  exact afterTrivia_other hblank hcomment

/-! ### Lexemes -/

private theorem continuesName_identTail (text : Bytes) :
    continuesName (text.drop (identTail text)) = false := by
  fun_induction identTail text with
  | case1 => rfl
  | case2 b rest hascii hbyte ih => rwa [Nat.add_comm]
  | case3 b rest hascii hbyte => simp [continuesName, hascii, hbyte]
  | case4 b rest hascii step hchar ih => rwa [← List.drop_drop]
  | case5 b rest hascii step hchar =>
    have hstop : isIdentChar (Utf8.decode (b :: rest)).1 = false := by simpa using hchar
    simp [continuesName, hascii, hstop]

theorem identTail_word {word next : Bytes} (hword : ∀ b ∈ word, isIdentByte b = true)
    (hnext : continuesName next = false) : identTail (word ++ next) = word.length := by
  induction word with
  | nil =>
    cases next with
    | nil => simp [identTail]
    | cons b rest =>
      rw [List.nil_append, identTail]
      rw [continuesName] at hnext
      by_cases hascii : b < Bytes.asciiLimit
      · rw [if_pos hascii] at hnext ⊢
        rw [if_neg (by simp [hnext])]
        rfl
      · rw [if_neg hascii] at hnext ⊢
        rw [if_neg (by simp [hnext])]
        rfl
  | cons b word ih =>
    have hb := hword b (by simp)
    have hrest := ih fun c hc => hword c (by simp [hc])
    rw [List.cons_append, identTail, if_pos (isIdentByte_ascii hb), if_pos hb, hrest,
      List.length_cons, Nat.add_comm]

namespace Lexeme

private theorem newline_not_word {b : UInt8} (h : isIdentStartByte b = true ∨ Bytes.asciiLimit ≤ b ∨
    Bytes.isDigit b = true) : b ≠ Bytes.newline := by
  rintro rfl
  revert h
  decide

theorem ofBytes_start {b : UInt8} (h : isIdentStartByte b = true) (rest : Bytes)
    (nfc : Bytes → Bytes := Normal.compose) : ofBytes b rest nfc = name 1 (b :: rest) nfc := by
  simp [ofBytes, newline_not_word (.inl h), h]

theorem ofBytes_foreign {b : UInt8} (h : Bytes.asciiLimit ≤ b) (rest : Bytes)
    (nfc : Bytes → Bytes := Normal.compose) :
    ofBytes b rest nfc =
      if CharSet.letters.has (Utf8.decode (b :: rest)).1.toNat then
        name (Utf8.decode (b :: rest)).2 (b :: rest) nfc
      else unknown (Utf8.decode (b :: rest)).1 (Utf8.decode (b :: rest)).2 (b :: rest) := by
  have hstart : isIdentStartByte b = false := by
    by_contra hstart
    exact UInt8.not_le.mpr (isIdentStartByte_ascii (by simpa using hstart)) h
  simp [ofBytes, newline_not_word (.inr (.inl h)), hstart, h, isIdentStart_foreign h]

theorem ofBytes_digit {b : UInt8} (h : Bytes.isDigit b = true) (rest : Bytes) :
    ofBytes b rest = number (b :: rest) := by
  have hascii : ¬ b ≥ Bytes.asciiLimit := UInt8.not_le.mpr (isDigit_ascii h)
  simp [ofBytes, newline_not_word (.inr (.inr h)), isIdentStartByte_of_isDigit h, hascii, h]

private theorem ofBytes_other {b : UInt8} (hstart : ¬ isIdentStartByte b = true)
    (hascii : ¬ Bytes.asciiLimit ≤ b) (hdigit : ¬ Bytes.isDigit b = true) (rest : Bytes) :
    (ofBytes b rest).kind.isWord = false := by
  unfold ofBytes
  rw [if_neg hstart, if_neg hascii, if_neg hdigit]
  split
  · rfl
  unfold punctuation
  split
  · rfl
  split
  · next kind hkind =>
    have hpunctuation := TokenKind.isPunctuation_of_ofByte? hkind
    cases kind <;> first
      | rfl
      | cases hpunctuation
  · rfl

theorem ofBytes_word {b : UInt8} {rest : Bytes} (h : (ofBytes b rest).kind.isWord = true) :
    ((isIdentStartByte b = true ∨ StartsForeign (b :: rest)) ∧
        ∃ first, ofBytes b rest = name first (b :: rest)) ∨
      Bytes.isDigit b = true ∧ (ofBytes b rest).kind = .intLit := by
  by_cases hstart : isIdentStartByte b = true
  · exact .inl ⟨.inl hstart, 1, ofBytes_start hstart rest⟩
  by_cases hforeign : Bytes.asciiLimit ≤ b
  · rw [ofBytes_foreign hforeign] at h ⊢
    by_cases hletter : CharSet.letters.has (Utf8.decode (b :: rest)).1.toNat = true
    · rw [if_pos hletter]
      exact .inl ⟨.inr ⟨⟨b, rfl, hforeign⟩, hletter⟩, _, rfl⟩
    · rw [if_neg hletter] at h
      cases h
  by_cases hdigit : Bytes.isDigit b = true
  · refine .inr ⟨hdigit, ?_⟩
    rw [ofBytes_digit hdigit, number] at h ⊢
    split at h
    · next hempty => rw [if_pos hempty]
    · cases h
  · rw [ofBytes_other hstart hforeign hdigit] at h
    cases h

private theorem kind_of_start {b : UInt8} {rest : Bytes}
    (h : isIdentStartByte b = true ∨ StartsForeign (b :: rest)) :
    (ofBytes b rest).kind = .ident := by
  rcases h with hstart | ⟨⟨c, hc, hforeign⟩, hletter⟩
  · rw [ofBytes_start hstart]
    rfl
  · obtain rfl : b = c := by simpa using hc
    rw [ofBytes_foreign hforeign, if_pos hletter]
    rfl

theorem number_eq {text digits next : Bytes} (h : DigitRun text digits next) :
    number text =
      if (next.takeWhile isIdentByte).isEmpty then ⟨.intLit, digits.length, digits, none⟩
      else ⟨.invalid, digits.length + (next.takeWhile isIdentByte).length,
        digits ++ next.takeWhile isIdentByte, some .malformedNumber⟩ := by
  have hstop : next.takeWhile (fun b => Bytes.isDigit b || b == 0x5F) = [] := by
    cases next with
    | nil => rfl
    | cons b rest => rw [List.takeWhile_cons_of_neg (by simp [h.stop b rfl])]
  have hdigits : text.takeWhile (fun b => Bytes.isDigit b || b == 0x5F) = digits := by
    rw [h.split, List.takeWhile_append_of_pos h.body, hstop, List.append_nil]
  simp only [number, hdigits]
  rw [h.split, List.drop_left' rfl]

private theorem exists_digitRun {b : UInt8} (h : Bytes.isDigit b = true) (rest : Bytes) :
    ∃ digits next, DigitRun (b :: rest) digits next := by
  let p : UInt8 → Bool := fun b => Bytes.isDigit b || b == 0x5F
  refine ⟨(b :: rest).takeWhile p, (b :: rest).dropWhile p, ?_, ?_, ?_, ?_⟩
  · exact List.takeWhile_append_dropWhile.symm
  · exact ⟨b, by simp [p, h], h⟩
  · intro c hc
    have hbyte : p c = true := List.mem_takeWhile_imp hc
    exact hbyte
  · intro c hc
    have hhead := List.head?_dropWhile_not p (b :: rest)
    rw [Option.mem_def.mp hc] at hhead
    simpa [p] using hhead

private theorem takeWhile_isEmpty_iff {next : Bytes}
    (hstop : ∀ b ∈ next.head?, (Bytes.isDigit b || b == 0x5F) = false) :
    (next.takeWhile isIdentByte).isEmpty = true ↔
      ∀ b ∈ next.head?, (Bytes.isUpper b || Bytes.isLower b) = false := by
  cases next with
  | nil => simp
  | cons b rest =>
    have hb : isIdentByte b = (Bytes.isUpper b || Bytes.isLower b) := by
      rw [isIdentByte_eq, hstop b rfl, Bool.or_false]
    simp only [List.takeWhile_cons, hb, List.head?_cons, Option.mem_def, Option.some.injEq,
      forall_eq']
    cases Bytes.isUpper b || Bytes.isLower b <;> simp

/-- A word goes on as far as it can: only a number can be followed by another word, and this is a
name that starts outside ASCII. -/
theorem word_stops {b c : UInt8} {rest more : Bytes} (hword : (ofBytes b rest).kind.isWord = true)
    (hafter : afterLexeme b rest = c :: more) (hnext : (ofBytes c more).kind.isWord = true) :
    (ofBytes b rest).kind = .intLit ∧ (ofBytes c more).kind = .ident ∧
      StartsForeign (c :: more) := by
  rcases ofBytes_word hword with ⟨-, first, hname⟩ | ⟨hdigit, hint⟩
  · -- Behind a name neither a name nor a number starts.
    have hstop : continuesName (c :: more) = false := by
      rw [← hafter, afterLexeme, hname]
      change continuesName ((b :: rest).drop (first + identTail ((b :: rest).drop first))) = false
      rw [← List.drop_drop]
      exact continuesName_identTail _
    rcases ofBytes_word hnext with ⟨hstart | ⟨⟨c', hc, hforeign⟩, hletter⟩, -⟩ | ⟨hdigit, -⟩
    · simp [continuesName, isIdentStartByte_ascii hstart, isIdentByte, hstart] at hstop
    · obtain rfl : c = c' := by simpa using hc
      have hascii : ¬ c < Bytes.asciiLimit := UInt8.not_lt.mpr hforeign
      simp [continuesName, hascii, isIdentChar, isIdentStart, hletter] at hstop
    · simp [continuesName, isDigit_ascii hdigit, isIdentByte, hdigit] at hstop
  · -- Behind a number stands no byte that continues a name in ASCII.
    obtain ⟨digits, next, hrun⟩ := exists_digitRun hdigit rest
    have hnumber := number_eq hrun
    rw [← ofBytes_digit hdigit] at hnumber
    have hempty : (next.takeWhile isIdentByte).isEmpty = true := by
      by_contra hsome
      rw [hnumber, if_neg hsome] at hint
      cases hint
    have hnext' : next = c :: more := by
      rw [← hafter, afterLexeme, hnumber, if_pos hempty, hrun.split, List.drop_left' rfl]
    have hother : isIdentByte c = false := by
      rw [hnext'] at hempty
      by_contra hident
      simp [hident] at hempty
    rcases ofBytes_word hnext with ⟨hstart | hforeign, -⟩ | ⟨hdigit, -⟩
    · simp [isIdentByte, hstart] at hother
    · exact ⟨hint, kind_of_start (.inr hforeign), hforeign⟩
    · simp [isIdentByte, hdigit] at hother

end Lexeme

/-! ### Tokens -/

namespace SourceFile

variable {f : SourceFile}

/-- The token stands for the lexeme at the front of `b :: rest`, and the tokens `after` are read
from what that lexeme leaves. -/
structure ReadsAt (f : SourceFile) (t : Token) (after : List Token) (b : UInt8) (rest : Bytes) :
    Prop where
  source : f.content.drop t.span.start = b :: rest
  token : t = (Lexeme.ofBytes b rest).token t.span t.leading
  stop : t.span.stop = t.span.start + (Lexeme.ofBytes b rest).size
  after : after = tokensAt f.id f.content.length (afterLexeme b rest)

private theorem ReadsAt.left {t : Token} {after : List Token} {b : UInt8} {rest : Bytes}
    (h : f.ReadsAt t after b rest) : f.content.drop t.span.stop = afterLexeme b rest := by
  rw [h.stop, ← List.drop_drop, h.source]
  rfl

private theorem drop_of_suffix {left : Bytes} (h : left <:+ f.content) :
    f.content.drop (f.content.length - left.length) = left :=
  (List.suffix_iff_eq_drop.mp h).symm

theorem afterTrivia_suffix {left : Bytes} (h : left <:+ f.content) :
    afterTrivia left <:+ f.content :=
  (List.drop_suffix _ _).trans h

private theorem tokensAt_split {left : Bytes} {before after : List Token} {t : Token}
    (hleft : left <:+ f.content)
    (h : tokensAt f.id f.content.length left = before ++ t :: after) :
    ∃ left', left' <:+ f.content ∧ tokensAt f.id f.content.length left' = t :: after := by
  induction before generalizing left with
  | nil => exact ⟨left, hleft, h⟩
  | cons first before ih =>
    cases hfront : afterTrivia left with
    | nil =>
      rw [tokensAt_ended f.id hleft.length_le hfront] at h
      simp at h
    | cons b rest =>
      obtain ⟨leading, hread⟩ := tokensAt_read f.id hleft.length_le hfront
      rw [hread, List.cons_append] at h
      have hsuffix : b :: rest <:+ f.content := hfront ▸ afterTrivia_suffix hleft
      exact ih ((List.drop_suffix _ _).trans hsuffix) (List.cons.inj h).2

private theorem tokensAt_cases {left : Bytes} {after : List Token} {t : Token}
    (hleft : left <:+ f.content) (h : tokensAt f.id f.content.length left = t :: after) :
    t.kind = .endOfFile ∧ f.content.drop t.span.start = [] ∨
      ∃ b rest, afterTrivia left = b :: rest ∧ f.ReadsAt t after b rest := by
  cases hfront : afterTrivia left with
  | nil =>
    rw [tokensAt_ended f.id hleft.length_le hfront] at h
    obtain ⟨rfl, -⟩ := List.cons.inj h
    exact .inl ⟨rfl, List.drop_length⟩
  | cons b rest =>
    have hsuffix : b :: rest <:+ f.content := hfront ▸ afterTrivia_suffix hleft
    have hsize := size_add_afterLexeme b rest
    have hlength := hsuffix.length_le
    obtain ⟨leading, hread⟩ := tokensAt_read f.id hleft.length_le hfront
    obtain ⟨rfl, rfl⟩ := List.cons.inj (hread.symm.trans h)
    refine .inr ⟨b, rest, rfl, drop_of_suffix hsuffix, rfl, ?_, rfl⟩
    change f.content.length - _ = f.content.length - _ + _
    omega

private theorem tokens_cases {before after : List Token} {t : Token}
    (h : f.tokens = before ++ t :: after) : t.kind = .endOfFile ∧ f.content.drop t.span.start = [] ∨
      ∃ b rest, f.ReadsAt t after b rest := by
  rw [f.tokens_eq] at h
  obtain ⟨left, hleft, htokens⟩ := tokensAt_split (List.suffix_refl _) h
  rcases tokensAt_cases hleft htokens with hend | ⟨b, rest, -, hread⟩
  · exact .inl hend
  · exact .inr ⟨b, rest, hread⟩

private theorem readsAt_of_word {before after : List Token} {t : Token}
    (h : f.tokens = before ++ t :: after) (hword : t.kind.isWord = true) :
    ∃ b rest, f.ReadsAt t after b rest := by
  rcases tokens_cases h with ⟨hend, -⟩ | hread
  · rw [hend] at hword
    cases hword
  · exact hread

namespace ReadsAt

variable {t u : Token} {after after' : List Token} {b c : UInt8} {rest more : Bytes}

private theorem kind (h : f.ReadsAt t after b rest) : t.kind = (Lexeme.ofBytes b rest).kind := by
  rw [h.token]
  rfl

/-- Where two words touch, a number ends and a name starts outside ASCII. -/
theorem words_touch (ht : f.ReadsAt t after b rest) (hu : f.ReadsAt u after' c more)
    (hword : t.kind.isWord = true) (hnext : u.kind.isWord = true)
    (htouch : t.span.stop = u.span.start) :
    t.kind = .intLit ∧ u.kind = .ident ∧ StartsForeign (f.content.drop u.span.start) := by
  have hafter : afterLexeme b rest = c :: more := by
    rw [← ht.left, htouch, hu.source]
  rw [ht.kind] at hword ⊢
  rw [hu.kind] at hnext ⊢
  rw [hu.source]
  exact Lexeme.word_stops hword hafter hnext

private theorem after_suffix (h : f.ReadsAt t after b rest) : afterLexeme b rest <:+ f.content := by
  rw [← h.left]
  exact List.drop_suffix _ _

private theorem stop_eq (h : f.ReadsAt t after b rest) (hafter : afterLexeme b rest = c :: more) :
    t.span.stop = f.content.length - (c :: more).length := by
  have hlength := congrArg List.length (h.left.trans hafter)
  simp only [List.length_drop, List.length_cons] at hlength ⊢
  omega

private theorem word_behind_iff (h : f.ReadsAt t after b rest) (hint : t.kind = .intLit) :
    (∃ u ∈ after.head?, u.kind.isWord = true ∧ t.span.stop = u.span.start) ↔
      StartsForeign (afterLexeme b rest) := by
  constructor
  · rintro ⟨u, hu, hword, htouch⟩
    obtain ⟨after', rfl⟩ := List.head?_eq_some_iff.mp hu
    rcases tokensAt_cases h.after_suffix h.after.symm with ⟨hend, -⟩ | ⟨c, more, -, hread⟩
    · rw [hend] at hword
      cases hword
    · have hforeign := (h.words_touch hread (by rw [hint]; rfl) hword htouch).2.2
      rwa [← htouch, h.left] at hforeign
  · rintro hforeign
    obtain ⟨c, hc, hhigh⟩ := hforeign.1
    obtain ⟨more, hmore⟩ := List.head?_eq_some_iff.mp hc
    rw [hmore] at hforeign
    have hfront : afterTrivia (afterLexeme b rest) = c :: more := by
      rw [hmore, afterTrivia_start (.inr hhigh)]
    obtain ⟨leading, hread⟩ := tokensAt_read f.id h.after_suffix.length_le hfront
    rw [h.after, hread]
    refine ⟨_, rfl, ?_, h.stop_eq hmore⟩
    change (Lexeme.ofBytes c more).kind.isWord = true
    rw [Lexeme.kind_of_start (.inr hforeign)]
    rfl

end ReadsAt

def badNumberAt (span : Span) : Diagnostic :=
  .error .badNumber span LexError.malformedNumber.message

private theorem badNumberAt_reported {t : Token} (ht : t ∈ f.tokens)
    (herror : t.error = some .malformedNumber) : badNumberAt t.span ∈ lexReports f.tokens := by
  have hreport : t.diagnostic? = some (badNumberAt t.span) := by
    rw [Token.diagnostic?, herror, Option.map_some, badNumberAt, LexError.code]
  exact List.mem_filterMap.mpr ⟨t, ht, hreport⟩

/-- Words go on as far as they can. Two of them touch only where a number is followed by a name that
starts with a letter outside ASCII. Digits that run into a letter of ASCII are malformed, together
with all that could go on a name there, and are reported as such; other digits are a number, and a
word stands right behind it exactly if a letter outside ASCII does. -/
theorem words_maximal (f : SourceFile) :
    (∀ (before : List Token) (a b : Token) (after : List Token),
      f.tokens = before ++ a :: b :: after →
      a.kind.isWord = true → b.kind.isWord = true → a.span.stop = b.span.start →
      a.kind = .intLit ∧ b.kind = .ident ∧ StartsForeign (f.content.drop b.span.start)) ∧
    (∀ (before : List Token) (t : Token) (after : List Token) (digits next : Bytes),
      f.tokens = before ++ t :: after →
      DigitRun (f.content.drop t.span.start) digits next →
      ((∃ b ∈ next.head?, (Bytes.isUpper b || Bytes.isLower b) = true) →
        t.kind = .invalid ∧
          t.span.stop = t.span.start + (digits ++ next.takeWhile isIdentByte).length ∧
          badNumberAt t.span ∈ lexReports f.tokens) ∧
      ((∀ b ∈ next.head?, (Bytes.isUpper b || Bytes.isLower b) = false) →
        t.kind = .intLit ∧ t.span.stop = t.span.start + digits.length ∧
          ((∃ u ∈ after.head?, u.kind.isWord = true ∧ t.span.stop = u.span.start) ↔
            StartsForeign next))) := by
  constructor
  · intro before a b after htokens ha hb htouch
    obtain ⟨_, _, hread⟩ := readsAt_of_word htokens ha
    have hsecond : f.tokens = (before ++ [a]) ++ b :: after := by simp [htokens]
    obtain ⟨_, _, hread'⟩ := readsAt_of_word hsecond hb
    exact hread.words_touch hread' ha hb htouch
  · intro before t after digits next htokens hrun
    obtain ⟨d, hd, hdigit⟩ := hrun.first
    obtain ⟨tail, rfl⟩ := List.head?_eq_some_iff.mp hd
    have hsource : f.content.drop t.span.start = d :: (tail ++ next) := hrun.split
    obtain ⟨b, rest, hread⟩ : ∃ b rest, f.ReadsAt t after b rest := by
      rcases tokens_cases htokens with ⟨-, hend⟩ | hread
      · rw [hend] at hsource
        cases hsource
      · exact hread
    obtain ⟨rfl, rfl⟩ := List.cons.inj (hread.source.symm.trans hsource)
    rw [hsource] at hrun
    have hlexeme := Lexeme.number_eq hrun
    rw [← Lexeme.ofBytes_digit hdigit] at hlexeme
    have hempty := Lexeme.takeWhile_isEmpty_iff hrun.stop
    constructor
    · rintro ⟨c, hc, hletter⟩
      rw [if_neg (by rw [hempty]; intro hnone; simp [hnone c hc] at hletter)] at hlexeme
      have herror : t.error = some .malformedNumber := by
        rw [hread.token, hlexeme, Lexeme.token]
      refine ⟨by rw [hread.kind, hlexeme], ?_, badNumberAt_reported (by simp [htokens]) herror⟩
      rw [hread.stop, hlexeme, List.length_append]
    · intro hnone
      rw [if_pos (hempty.mpr hnone)] at hlexeme
      have hint : t.kind = .intLit := by rw [hread.kind, hlexeme]
      have hleft : afterLexeme b (tail ++ next) = next := by
        rw [afterLexeme, hlexeme, ← List.cons_append]
        exact List.drop_left' rfl
      refine ⟨hint, by rw [hread.stop, hlexeme], ?_⟩
      rw [hread.word_behind_iff hint, hleft]

/-- A number with a name right behind it. -/
theorem words_touch_foreign :
    let f : SourceFile := { id := 0, path := "main.nkl", content := "1é" }
    f.tokens.map (fun t => (t.kind, t.span, t.leading)) =
        [(.intLit, ⟨0, 0, 1⟩, []), (.ident, ⟨0, 1, 3⟩, []), (.endOfFile, ⟨0, 3, 3⟩, [])] ∧
      lexReports f.tokens = [] := by
  decide +kernel

end SourceFile

end Keywordless
