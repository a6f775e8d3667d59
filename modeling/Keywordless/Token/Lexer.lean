import Keywordless.Source.File
import Keywordless.Token.Lexeme

/-!
# Lexers

`SourceFile.tokens` is the token sequence of a file, ending in one token for the end of the file.
`Lexer` hands out the same sequence one token at a time, with one token of look-ahead, and keeps
the reports on invalid tokens in the order in which the tokens were first seen.
-/

namespace Keywordless

def placeTrivia (file : FileId) (start : Nat) : List (TriviaKind × Bytes) → List Trivia
  | [] => []
  | (kind, text) :: rest =>
    ⟨kind, ⟨file, start, start + text.length⟩, text⟩ :: placeTrivia file (start + text.length) rest

structure Scanned where
  token : Token
  offset : Nat
  rest : Bytes

/-- Reads one token at `offset`, where `text` is what remains of the file. Blanks and comments
before the end of the file belong to no token. -/
def scanToken (file : FileId) (offset : Nat) (text : Bytes)
    (nfc : Bytes → Bytes := Normal.compose) : Scanned :=
  let pieces := triviaPieces text
  let start := offset + triviaSize text
  match text.drop (triviaSize text) with
  | [] => ⟨{ kind := .endOfFile, span := ⟨file, start, start⟩ }, start, []⟩
  | b :: rest =>
    let lexeme := Lexeme.ofBytes b rest nfc
    let token : Token := {
      kind := lexeme.kind
      span := ⟨file, start, start + lexeme.size⟩
      text := lexeme.text
      leading := placeTrivia file offset pieces
      error := lexeme.error }
    ⟨token, start + lexeme.size, (b :: rest).drop lexeme.size⟩

theorem scanToken_rest_lt {file : FileId} {offset : Nat} {text : Bytes} {nfc : Bytes → Bytes}
    (h : (scanToken file offset text nfc).token.kind ≠ .endOfFile) :
    (scanToken file offset text nfc).rest.length < text.length := by
  revert h
  simp only [scanToken]
  split
  · simp
  · next b rest hdrop =>
    intro _
    have hlen := congrArg List.length hdrop
    have := Lexeme.size_pos b rest nfc
    simp only [List.length_drop, List.length_cons] at hlen ⊢
    omega

def tokensFrom (file : FileId) (offset : Nat) (text : Bytes)
    (nfc : Bytes → Bytes := Normal.compose) : List Token :=
  let scanned := scanToken file offset text nfc
  if _h : scanned.token.kind = .endOfFile then [scanned.token]
  else scanned.token :: tokensFrom file scanned.offset scanned.rest nfc
termination_by text.length
decreasing_by exact scanToken_rest_lt _h

def SourceFile.tokens (f : SourceFile) (nfc : Bytes → Bytes := Normal.compose) : List Token :=
  tokensFrom f.id 0 f.content nfc

def lexReports (tokens : List Token) : List Diagnostic := tokens.filterMap Token.diagnostic?

structure Lexer where
  file : FileId
  offset : Nat
  rest : Bytes
  look : Option Token := none
  reports : List Diagnostic := []

namespace Lexer

def ofFile (f : SourceFile) : Lexer := { file := f.id, offset := 0, rest := f.content }

/-- Takes the next token; the end of the file is never passed. -/
def next (lx : Lexer) : Token × Lexer :=
  match lx.look with
  | some token => (token, { lx with look := none })
  | none =>
    let scanned := scanToken lx.file lx.offset lx.rest
    (scanned.token, { lx with
      offset := scanned.offset
      rest := scanned.rest
      reports := lx.reports ++ scanned.token.diagnostic?.toList })

def peek (lx : Lexer) : Token × Lexer :=
  let (token, lx) := lx.next
  (token, { lx with look := some token })

def drain (lx : Lexer) : Nat → List Token × Lexer
  | 0 => ([], lx)
  | budget + 1 =>
    let (token, lx) := lx.next
    if token.kind == .endOfFile then ([token], lx)
    else
      let (tokens, lx) := drain lx budget
      (token :: tokens, lx)

/-- Takes every remaining token, the end of the file included. One token more than there are bytes
left, and one that was looked at, are always enough. -/
def all (lx : Lexer) : List Token × Lexer := drain lx (lx.rest.length + 2)

end Lexer

end Keywordless
