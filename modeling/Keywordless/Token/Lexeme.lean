import Keywordless.Text.Normal
import Keywordless.Text.Table.Letter
import Keywordless.Text.Table.Mark
import Keywordless.Token.Basic

/-!
# Lexemes

What stands at the front of a text: blanks and comments, then one lexeme. Every function here looks
at the bytes that remain and says how many of them belong together.
-/

namespace Keywordless

/-- Blanks inside a line. A carriage return is one of them. -/
def isBlank (b : UInt8) : Bool := b == 0x20 || b == 0x09 || b == 0x0D

def isIdentStartByte (b : UInt8) : Bool := b == 0x5F || Bytes.isUpper b || Bytes.isLower b

def isIdentByte (b : UInt8) : Bool := isIdentStartByte b || Bytes.isDigit b

def isIdentStart (c : Char) : Bool := c = '_' || CharSet.letters.has c.toNat

/-- Names go on with letters, underscores, decimal digits and non-spacing marks. -/
def isIdentChar (c : Char) : Bool :=
  isIdentStart c || CharSet.decimalDigits.has c.toNat || CharSet.nonspacingMarks.has c.toNat

def startsComment : Bytes → Bool
  | 0x2F :: 0x2F :: _ => true
  | _ => false

def triviaPieces : Bytes → List (TriviaKind × Bytes)
  | [] => []
  | b :: rest =>
    if isBlank b then
      (.space, b :: rest.takeWhile isBlank) :: triviaPieces (rest.dropWhile isBlank)
    else if startsComment (b :: rest) then
      (.lineComment, b :: rest.takeWhile (· != Bytes.newline)) ::
        triviaPieces (rest.dropWhile (· != Bytes.newline))
    else []
termination_by text => text.length
decreasing_by
  · have := (List.dropWhile_sublist isBlank (l := rest)).length_le
    simp only [List.length_cons]
    omega
  · have := (List.dropWhile_sublist (· != Bytes.newline) (l := rest)).length_le
    simp only [List.length_cons]
    omega

def triviaSize (text : Bytes) : Nat := ((triviaPieces text).map (·.2.length)).foldl (· + ·) 0

/-- The size of the longest run that starts and ends with a newline and has only newlines, blanks
and comments between; the first newline is given. -/
def newlineRun (rest : Bytes) : Nat :=
  let skipped := triviaSize rest
  match _h : rest.drop skipped with
  | b :: more => if b == Bytes.newline then 1 + skipped + newlineRun more else 1
  | [] => 1
termination_by rest.length
decreasing_by
  have := congrArg List.length _h
  simp only [List.length_drop, List.length_cons] at this
  omega

def identTail : Bytes → Nat
  | [] => 0
  | b :: rest =>
    if b < Bytes.asciiLimit then (if isIdentByte b then 1 + identTail rest else 0)
    else
      let step := Utf8.decode (b :: rest)
      if isIdentChar step.1 then step.2 + identTail ((b :: rest).drop step.2) else 0
termination_by text => text.length
decreasing_by
  · simp
  · have := Utf8.decode_size_pos (b :: rest)
    simp only [List.length_drop, List.length_cons]
    omega

structure Lexeme where
  kind : TokenKind
  size : Nat
  text : Bytes
  error : Option LexError := none

namespace Lexeme

def unknown (c : Char) (size : Nat) (source : Bytes) : Lexeme :=
  ⟨.invalid, size, source.take size, some (.unknownChar c)⟩

def newlines (rest : Bytes) : Lexeme := ⟨.newline, newlineRun rest, [Bytes.newline], none⟩

/-- The text of a name: names in ASCII stay as they are written. -/
def spelled (nfc : Bytes → Bytes) (written : Bytes) : Bytes :=
  if Bytes.isAsciiText written then written else nfc written

def name (first : Nat) (source : Bytes) (nfc : Bytes → Bytes := Normal.compose) : Lexeme :=
  let size := first + identTail (source.drop first)
  ⟨.ident, size, spelled nfc (source.take size), none⟩

/-- A decimal literal. Digits that run into an ASCII letter are malformed as a whole. -/
def number (source : Bytes) : Lexeme :=
  let digits := source.takeWhile fun b => Bytes.isDigit b || b == 0x5F
  let letters := (source.drop digits.length).takeWhile isIdentByte
  if letters.isEmpty then ⟨.intLit, digits.length, digits, none⟩
  else ⟨.invalid, digits.length + letters.length, digits ++ letters, some .malformedNumber⟩

def punctuation (b : UInt8) (rest : Bytes) : Lexeme :=
  if b == 0x2D && rest.head? == some 0x3E then ⟨.arrow, 2, [0x2D, 0x3E], none⟩
  else
    match TokenKind.ofByte? b with
    | some kind => ⟨kind, 1, [b], none⟩
    | none => unknown (Char.ofNat b.toNat) 1 (b :: rest)

/-- The lexeme at the front of a text that starts with byte `b` and has no blanks in front. Names
outside ASCII are normalised by `nfc`. -/
def ofBytes (b : UInt8) (rest : Bytes) (nfc : Bytes → Bytes := Normal.compose) : Lexeme :=
  if b == Bytes.newline then newlines rest
  else if isIdentStartByte b then name 1 (b :: rest) nfc
  else if b ≥ Bytes.asciiLimit then
    let step := Utf8.decode (b :: rest)
    if isIdentStart step.1 then name step.2 (b :: rest) nfc
    else unknown step.1 step.2 (b :: rest)
  else if Bytes.isDigit b then number (b :: rest)
  else punctuation b rest

theorem newlineRun_pos (rest : Bytes) : 0 < newlineRun rest := by
  unfold newlineRun
  dsimp only
  split
  · split <;> omega
  · omega

theorem size_pos (b : UInt8) (rest : Bytes) (nfc : Bytes → Bytes := Normal.compose) :
    0 < (ofBytes b rest nfc).size := by
  unfold ofBytes
  split
  · exact newlineRun_pos rest
  split
  · simp only [name]
    omega
  split
  · have := Utf8.decode_size_pos (b :: rest)
    dsimp only
    split
    · simp only [name]
      omega
    · exact this
  split
  · next hdigit =>
    simp only [number, List.takeWhile_cons, hdigit, Bool.true_or, if_true]
    split <;> simp only [List.length_cons] <;> omega
  · simp only [punctuation]
    split
    · simp
    split
    · simp
    · simp [unknown]

end Lexeme

end Keywordless
