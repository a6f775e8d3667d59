import Keywordless.Diagnostic.Basic
import Keywordless.Text.Quoted
import Keywordless.Token.Kind

/-!
# Tokens

A token has its kind, the bytes it covers, and the blanks and comments before it. The text of a name
is composed canonically; the text of any other token is what stands in the source, except that a run
of newlines has the text of one.
-/

namespace Keywordless

inductive TriviaKind where
  | space
  | lineComment
  deriving DecidableEq, Repr

def TriviaKind.name : TriviaKind → Bytes
  | space => "Space"
  | lineComment => "LineComment"

def TriviaKind.nameOfNumber (n : Nat) : Bytes :=
  ([space, lineComment][n]?.map name).getD "TriviaKind(?)"

structure Trivia where
  kind : TriviaKind
  span : Span
  text : Bytes
  deriving DecidableEq, Repr

inductive LexError where
  | unknownChar (c : Char)
  | malformedNumber
  deriving DecidableEq, Repr

namespace LexError

def code : LexError → Code
  | unknownChar _ => .unknownChar
  | malformedNumber => .badNumber

def message : LexError → Bytes
  | unknownChar c => "unknown character " ++ Quoted.char c
  | malformedNumber => "malformed integer literal"

end LexError

structure Token where
  kind : TokenKind
  span : Span
  text : Bytes := []
  leading : List Trivia := []
  /-- Set exactly for tokens of kind `invalid`. -/
  error : Option LexError := none
  deriving DecidableEq, Repr

def Token.diagnostic? (t : Token) : Option Diagnostic :=
  t.error.map fun e => .error e.code t.span e.message

end Keywordless
