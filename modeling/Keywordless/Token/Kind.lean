import Keywordless.Text.Bytes

/-!
# Token kinds

The language has no keywords: besides names and integer literals there is only punctuation. Newlines
are tokens because they separate expressions.
-/

namespace Keywordless

inductive TokenKind where
  | invalid
  | endOfFile
  | newline
  | ident
  | intLit
  | arrow
  | colon
  | semicolon
  | plus
  | minus
  | star
  | slash
  | caret
  | dot
  | comma
  | assign
  | lparen
  | rparen
  | lbrace
  | rbrace
  | lbracket
  | rbracket
  deriving DecidableEq, Repr, Inhabited

namespace TokenKind

def all : List TokenKind := [
  invalid, endOfFile, newline, ident, intLit, arrow, colon, semicolon, plus, minus, star, slash,
  caret, dot, comma, assign, lparen, rparen, lbrace, rbrace, lbracket, rbracket]

def name : TokenKind → Bytes
  | invalid => "Invalid"
  | endOfFile => "EOF"
  | newline => "Newline"
  | ident => "Ident"
  | intLit => "IntLit"
  | arrow => "Arrow"
  | colon => "Colon"
  | semicolon => "Semicolon"
  | plus => "Plus"
  | minus => "Minus"
  | star => "Star"
  | slash => "Slash"
  | caret => "Caret"
  | dot => "Dot"
  | comma => "Comma"
  | assign => "Assign"
  | lparen => "LParen"
  | rparen => "RParen"
  | lbrace => "LBrace"
  | rbrace => "RBrace"
  | lbracket => "LBracket"
  | rbracket => "RBracket"

def nameOfNumber (n : Nat) : Bytes := (all[n]?.map name).getD "Kind(?)"

/-- The text of punctuation; empty for kinds whose text varies. -/
def spelling : TokenKind → Bytes
  | arrow => "->"
  | colon => ":"
  | semicolon => ";"
  | plus => "+"
  | minus => "-"
  | star => "*"
  | slash => "/"
  | caret => "^"
  | dot => "."
  | comma => ","
  | assign => "="
  | lparen => "("
  | rparen => ")"
  | lbrace => "\x7b"
  | rbrace => "\x7d"
  | lbracket => "["
  | rbracket => "]"
  | _ => []

def ofByte? (b : UInt8) : Option TokenKind :=
  match Char.ofUInt8 b with
  | ':' => some colon
  | ';' => some semicolon
  | '+' => some plus
  | '-' => some minus
  | '*' => some star
  | '/' => some slash
  | '^' => some caret
  | '.' => some dot
  | ',' => some comma
  | '=' => some assign
  | '(' => some lparen
  | ')' => some rparen
  | '{' => some lbrace
  | '}' => some rbrace
  | '[' => some lbracket
  | ']' => some rbracket
  | _ => none

def isLiteral (k : TokenKind) : Bool := k == intLit

def isPunctuation : TokenKind → Bool
  | invalid | endOfFile | newline | ident | intLit => false
  | _ => true

def isSeparator (k : TokenKind) : Bool := k == newline || k == semicolon

end TokenKind

end Keywordless
