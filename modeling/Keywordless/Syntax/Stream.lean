import Keywordless.Syntax.Basic
import Keywordless.Token.Lexer

/-!
# Token streams

The state of a parse: the tokens that are left, with one token of look-ahead, and what was built and
reported so far. An invalid token is reported when it is first looked at.
-/

namespace Keywordless

inductive Expected where
  | expression
  | identifier
  | separator
  | token (kind : TokenKind)
  deriving DecidableEq, Repr

namespace Expected

def code : Expected → Code
  | expression => .unexpectedToken
  | identifier => .expectIdentifier
  | separator => .expectToken
  | token _ => .expectToken

def text : Expected → Bytes
  | expression => "expected expression"
  | identifier => "expected identifier"
  | separator => "expected newline"
  | token kind => "expected " ++ Quoted.text kind.spelling

end Expected

structure TokenStream where
  rest : List Token
  /-- Whether the next token was looked at. -/
  looked : Bool := false
  lastSpan : Span
  made : Nat := 0
  reports : List Diagnostic := []

namespace TokenStream

def size (s : TokenStream) : Nat := s.rest.length

def kind (s : TokenStream) : TokenKind :=
  match s.rest with
  | t :: _ => t.kind
  | [] => .endOfFile

def look (s : TokenStream) : TokenStream :=
  if s.looked then s
  else { s with
    looked := true
    reports := s.reports ++ (s.rest.head?.bind Token.diagnostic?).toList }

@[simp] theorem look_rest (s : TokenStream) : s.look.rest = s.rest := by
  unfold look; split <;> rfl

@[simp] theorem look_size (s : TokenStream) : s.look.size = s.size := by simp [size]

structure Taken (s : TokenStream) where
  token : Token
  next : TokenStream
  shorter : next.size < s.size

def take? (s : TokenStream) (kind : TokenKind) : Option (Taken s) :=
  match h : s.rest with
  | t :: rest =>
    if t.kind = kind then
      some ⟨t, { s with rest, looked := false, lastSpan := t.span }, by simp [size, h]⟩
    else none
  | [] => none

def skipFrom (p : TokenKind → Bool) : List Token → TokenStream → TokenStream
  | [], s => { s with rest := [] }.look
  | t :: rest, s =>
    let s := { s with rest := t :: rest }.look
    if p t.kind then skipFrom p rest { s with looked := false, lastSpan := t.span }
    else s

private theorem skipFrom_size_le (p : TokenKind → Bool) (rest : List Token) (s : TokenStream) :
    (skipFrom p rest s).size ≤ rest.length := by
  induction rest generalizing s with
  | nil => simp [skipFrom, size]
  | cons t rest ih =>
    simp only [skipFrom]
    split
    · exact Nat.le_succ_of_le (ih _)
    · simp [size]

/-- Takes every token up to the first whose kind does not satisfy `p`, and looks at that one. -/
def skip (s : TokenStream) (p : TokenKind → Bool) : { t : TokenStream // t.size ≤ s.size } :=
  ⟨skipFrom p s.rest s, skipFrom_size_le p s.rest s⟩

def skipped (s : TokenStream) (p : TokenKind → Bool) : List Token :=
  s.rest.takeWhile fun t => p t.kind

def report (s : TokenStream) (code : Code) (span : Span) (message : Bytes) : TokenStream :=
  { s with reports := s.reports ++ [.error code span message] }

/-- The report that the next token is not what was expected. An invalid token was reported when it
was looked at, so nothing is added for it. -/
def unexpected (s : TokenStream) (e : Expected) : TokenStream :=
  let s := s.look
  match s.rest with
  | [] => s.report .unexpectedEnd s.lastSpan.atStop (e.text ++ ", got end of file")
  | t :: _ =>
    match t.kind with
    | .invalid => s
    | .endOfFile => s.report .unexpectedEnd s.lastSpan.atStop (e.text ++ ", got end of file")
    | .newline => s.report e.code t.span (e.text ++ ", got newline")
    | _ => s.report e.code t.span (e.text ++ ", got " ++ Quoted.text t.text)

structure Draft where
  kind : ExprKind
  span : Span
  nameSpan : Span := {}
  name : Bytes := []
  type : Expr := .absent
  value : Expr := .absent
  body : Expr := .absent
  list : List Expr := []

def Draft.expr (d : Draft) (index : Nat) : Expr :=
  .node { kind := d.kind, span := d.span, index, nameSpan := d.nameSpan, name := d.name }
    d.type d.value d.body d.list

/-- The next expression of a draft, numbered after all that were built before. -/
def built (s : TokenStream) (d : Draft) : Expr := d.expr (s.made + 1)

def building (s : TokenStream) : TokenStream := { s with made := s.made + 1 }

@[simp] theorem building_size (s : TokenStream) : s.building.size = s.size := rfl

end TokenStream

end Keywordless
