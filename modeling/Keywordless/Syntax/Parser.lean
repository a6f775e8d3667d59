import Keywordless.Syntax.Run

/-!
# Parsing

Recursive descent over a token stream. Parsing stops at the first syntax error; the items parsed
before it are kept. The grammar is

* `file := sep* (expr (sep+ expr)*)? sep*` with `sep` a newline or `;`,
* `expr := binding | operand`,
* `binding := Ident ':' (':' expr | '=' expr | operand (':' expr | '=' expr)?)`,
* `operand := '[' ']' operand | '[' '^' ']' operand | '[' operand ']' operand | '^' operand
  | postfix`,
* `postfix := primary ('(' args ')' | '.' Ident)*`.

Each step returns the stream after it together with the fact that tokens were taken, which is why
the descent ends. Tokens are recorded with the step that comes after them.
-/

namespace Keywordless.Syntax

open TokenStream (Draft Taken)
open Run (entering stop)

/-- A result and the stream after it, which has fewer than `bound` tokens. -/
structure Step (bound : Nat) (α : Type) where
  value : α
  next : TokenStream
  shorter : next.size < bound

def isNewline (k : TokenKind) : Bool := k == .newline

def finish {bound : Nat} (s : TokenStream) (d : Draft) (h : s.size < bound) :
    Step bound Expr :=
  ⟨s.built d, s.building, h⟩

def expect (s : TokenStream) (kind : TokenKind) (e : Expected) : Run (Taken s.look) :=
  match s.look.take? kind with
  | some taken => Run.after [taken.token] (pure taken)
  | none => stop (s.unexpected e)

/-- After an expression there is a separator, which is taken, or something that closes the
sequence, which is left. -/
def endItem (s : TokenStream) : Run { next : TokenStream // next.size ≤ s.size } :=
  let seen := s.look
  match seen.take? .newline, seen.take? .semicolon with
  | some taken, _ =>
    Run.after [taken.token]
      (pure ⟨taken.next, by have := taken.shorter; simp [seen] at this; omega⟩)
  | none, some taken =>
    Run.after [taken.token]
      (pure ⟨taken.next, by have := taken.shorter; simp [seen] at this; omega⟩)
  | none, none =>
    match seen.kind with
    | .rparen | .rbrace | .rbracket | .endOfFile => pure ⟨seen, by simp [seen]⟩
    | _ => stop (s.unexpected .separator)

def firstOther? (list : List Expr) : Option Expr := list.find? (·.kind != .declaration)

def requireDeclarations (s : TokenStream) (list : List Expr) : Run Unit :=
  match firstOther? list with
  | some e => stop (s.report .expectDeclaration e.span
      "expected a declaration for procedure parameter or struct field")
  | none => pure ()

/-- Entries in parentheses without an arrow behind them: a single one that declares nothing stands
for itself, and declarations make a struct type. -/
def grouped {bound : Nat} (t : TokenStream) (span : Span) (entries : List Expr)
    (h : t.size < bound) : Run (Step bound Expr) :=
  match entries with
  | [] => stop (t.report .unexpectedToken span "empty parentheses must be followed by '->'")
  | first :: others =>
    if others.isEmpty && first.kind != .declaration then
      return finish t { kind := .paren, span, value := first } h
    else do
      requireDeclarations t entries
      return finish t { kind := .structType, span, list := entries } h

mutual

def expr (s : TokenStream) : Run (Step s.size Expr) := entering <|
  match s.look.take? .ident with
  | some name => do
    have hname : name.next.size < s.size := by simpa using name.shorter
    let t := name.next.look
    if t.kind == .colon then
      let r ← (binding name.token t).after [name.token]
      return ⟨r.value, r.next, by have := r.shorter; simp [t] at this; omega⟩
    else
      let draft : Draft :=
        { kind := .name, span := name.token.span, nameSpan := name.token.span,
          name := name.token.text }
      let r ← (postfixes name.token.span (t.built draft) t.building).after [name.token]
      return ⟨r.value, r.next, by have := r.shorter; simp [t] at this; omega⟩
  | none => operand s
termination_by 8 * s.size + 3

def operand (s : TokenStream) : Run (Step s.size Expr) := entering <|
  match s.look.take? .lbracket, s.look.take? .caret, s.look.take? .ident with
  | some opening, _, _ => do
    have hopen : opening.next.size < s.size := by simpa using opening.shorter
    let r ← (bracketType opening.token.span opening.next).after [opening.token]
    return ⟨r.value, r.next, by have := r.shorter; omega⟩
  | none, some caret, _ => do
    have hcaret : caret.next.size < s.size := by simpa using caret.shorter
    let elem ← (operand caret.next).after [caret.token]
    return finish elem.next
      { kind := .pointerType, span := caret.token.span.cover elem.next.lastSpan,
        type := elem.value }
      (by have := elem.shorter; omega)
  | none, none, some name => do
    have hname : name.next.size < s.size := by simpa using name.shorter
    let draft : Draft :=
      { kind := .name, span := name.token.span, nameSpan := name.token.span,
        name := name.token.text }
    let rest := postfixes name.token.span (name.next.built draft) name.next.building
    let r ← rest.after [name.token]
    return ⟨r.value, r.next, by have := r.shorter; simp at this; omega⟩
  | none, none, none => do
    let first ← primary s
    have hfirst := first.shorter
    let r ← postfixes first.value.span first.value first.next
    return ⟨r.value, r.next, by have := r.shorter; omega⟩
termination_by 8 * s.size + 2

def ascription (s : TokenStream) : Run (Step (s.size + 1) Expr) := entering <|
  if s.look.kind == .colon || s.look.kind == .assign then pure ⟨.absent, s.look, by simp⟩
  else do
    let r ← operand s.look
    return ⟨r.value, r.next, by have := r.shorter; simp at this; omega⟩
termination_by 8 * s.size + 3

def binding (name : Token) (s : TokenStream) : Run (Step s.size Expr) := entering <|
  match s.take? .colon with
  | none => stop s
  | some colon => do
    have hcolon := colon.shorter
    let typed ← (ascription colon.next).after [colon.token]
    have htyped : typed.next.size < s.size := by have := typed.shorter; omega
    let u := typed.next.look
    match u.take? .colon, u.take? .assign with
    | some second, _ => do
      have hsecond : second.next.size < s.size := by
        have := second.shorter; simp [u] at this; omega
      let value ← (expr second.next).after [second.token]
      return finish value.next
        { kind := .constant, span := name.span.cover value.next.lastSpan, nameSpan := name.span,
          name := name.text, type := typed.value, value := value.value }
        (by have := value.shorter; omega)
    | none, some equals => do
      have hequals : equals.next.size < s.size := by
        have := equals.shorter; simp [u] at this; omega
      let value ← (expr equals.next).after [equals.token]
      return finish value.next
        { kind := .declaration, span := name.span.cover value.next.lastSpan,
          nameSpan := name.span, name := name.text, type := typed.value, value := value.value }
        (by have := value.shorter; omega)
    | none, none =>
      return finish u
        { kind := .declaration, span := name.span.cover u.lastSpan, nameSpan := name.span,
          name := name.text, type := typed.value }
        (by simpa [u] using htyped)
termination_by 8 * s.size

def primary (s : TokenStream) : Run (Step s.size Expr) := entering <|
  match s.look.take? .intLit, s.look.take? .lparen, s.look.take? .lbrace with
  | some literal, _, _ =>
    Run.after [literal.token] <| pure <| finish literal.next
      { kind := .intLit, span := literal.token.span, name := literal.token.text }
      (by simpa using literal.shorter)
  | none, some opening, _ => do
    have hopen : opening.next.size < s.size := by simpa using opening.shorter
    let r ← (parenthesised opening.token.span opening.next).after [opening.token]
    return ⟨r.value, r.next, by have := r.shorter; omega⟩
  | none, none, some opening => do
    have hopen : opening.next.size < s.size := by simpa using opening.shorter
    let r ← (block opening.token.span opening.next).after [opening.token]
    return ⟨r.value, r.next, by have := r.shorter; omega⟩
  | none, none, none => stop (s.unexpected .expression)
termination_by 8 * s.size + 1

def postfixes (start : Span) (e : Expr) (s : TokenStream) :
    Run (Step (s.size + 1) Expr) := entering <|
  match s.look.take? .lparen, s.look.take? .dot with
  | some opening, _ => do
    have hopen : opening.next.size < s.size := by simpa using opening.shorter
    let args ← (arguments opening.next).after [opening.token]
    have hargs := args.shorter
    let draft : Draft :=
      { kind := .call, span := start.cover args.next.lastSpan, value := e, list := args.value }
    let others := postfixes start (args.next.built draft) args.next.building
    let r ← others.again .postfixes s args.next.building
    return ⟨r.value, r.next, by have := r.shorter; simp at this; omega⟩
  | none, some dot => do
    have hdot : dot.next.size < s.size := by simpa using dot.shorter
    let member ← (expect dot.next .ident .identifier).after [dot.token]
    have hmember : member.next.size < s.size := by
      have := member.shorter; simp at this; omega
    let draft : Draft :=
      { kind := .member, span := start.cover member.next.lastSpan, value := e,
        nameSpan := member.token.span, name := member.token.text }
    let others := postfixes start (member.next.built draft) member.next.building
    let r ← others.again .postfixes s member.next.building
    return ⟨r.value, r.next, by have := r.shorter; simp at this; omega⟩
  | none, none => pure ⟨e, s.look, by simp⟩
termination_by 8 * s.size

def arguments (s : TokenStream) : Run (Step s.size (List Expr)) := entering do
  let ⟨t, ht⟩ := s.skip isNewline
  let entries ← (argumentEntries t).after (s.skipped isNewline)
  have hentries := entries.shorter
  let closing ← expect entries.next .rparen (.token .rparen)
  return ⟨entries.value, closing.next, by have := closing.shorter; simp at this; omega⟩
termination_by 8 * s.size + 5

def argumentEntries (s : TokenStream) : Run (Step (s.size + 1) (List Expr)) := entering <|
  if s.look.kind == .rparen then pure ⟨[], s.look, by simp⟩
  else do
    let first ← expr s.look
    have hfirst : first.next.size < s.size := by simpa using first.shorter
    let ⟨t, ht⟩ := first.next.skip isNewline
    match t.take? .comma with
    | none => Run.after (first.next.skipped isNewline) (pure ⟨[first.value], t, by omega⟩)
    | some comma => do
      have hcomma := comma.shorter
      let ⟨u, hu⟩ := comma.next.skip isNewline
      let taken := first.next.skipped isNewline ++ comma.token :: comma.next.skipped isNewline
      let others ← ((argumentEntries u).again .list s u).after taken
      return ⟨first.value :: others.value, others.next, by have := others.shorter; omega⟩
termination_by 8 * s.size + 4

/-- What follows an opening parenthesis: a procedure, a procedure type, a parenthesised expression
or a struct type, told apart by its entries and by an arrow after it. -/
def parenthesised (start : Span) (s : TokenStream) : Run (Step s.size Expr) := entering do
  let args ← arguments s
  have hargs := args.shorter
  let list := args.value
  let t := args.next.look
  match t.take? .arrow with
  | some arrow => do
    have harrow : arrow.next.size < s.size := by
      have := arrow.shorter; simp only [t, TokenStream.look_size] at this; omega
    (requireDeclarations arrow.next list).after [arrow.token]
    let ret ← operand arrow.next
    have hret := ret.shorter
    let u := ret.next.look
    match u.take? .lbrace with
    | none =>
      return finish u
        { kind := .procedureType, span := start.cover u.lastSpan, type := ret.value, list := list }
        (by simp only [u, TokenStream.look_size]; omega)
    | some opening => do
      have hopen : opening.next.size < s.size := by
        have := opening.shorter; simp only [u, TokenStream.look_size] at this; omega
      let body ← (block opening.token.span opening.next).after [opening.token]
      return finish body.next
        { kind := .procedure, span := start.cover body.next.lastSpan, type := ret.value,
          body := body.value, list := list }
        (by have := body.shorter; omega)
  | none =>
    grouped t (start.cover args.next.lastSpan) list
      (by simpa only [t, TokenStream.look_size] using hargs)
termination_by 8 * s.size + 6

def block (start : Span) (s : TokenStream) : Run (Step s.size Expr) := entering do
  let entries ← blockEntries s
  let span := start.cover entries.next.lastSpan
  return finish entries.next { kind := .block, span, list := entries.value } entries.shorter
termination_by 8 * s.size + 5

def blockEntries (s : TokenStream) : Run (Step s.size (List Expr)) := entering do
  let ⟨t, ht⟩ := s.skip TokenKind.isSeparator
  match t.take? .rbrace with
  | some closing =>
    Run.after (s.skipped TokenKind.isSeparator ++ [closing.token])
      (pure ⟨[], closing.next, by have := closing.shorter; omega⟩)
  | none => do
    let first ← (expr t).after (s.skipped TokenKind.isSeparator)
    have hfirst := first.shorter
    let ⟨u, hu⟩ ← endItem first.next
    let v := u.look
    match v.kind with
    | .rparen | .rbracket | .endOfFile => stop (v.unexpected (.token .rbrace))
    | _ => do
      let others ← (blockEntries v).again .block s v
      return ⟨first.value :: others.value, others.next, by
        have := others.shorter; simp [v] at this; omega⟩
termination_by 8 * s.size + 4

def bracketType (start : Span) (s : TokenStream) : Run (Step s.size Expr) := entering do
  let t := s.look
  match t.take? .rbracket, t.take? .caret with
  | some closing, _ => do
    have hclosing : closing.next.size < s.size := by simpa [t] using closing.shorter
    let elem ← (operand closing.next).after [closing.token]
    return finish elem.next
      { kind := .sliceType, span := start.cover elem.next.lastSpan, type := elem.value }
      (by have := elem.shorter; omega)
  | none, some caret => do
    have hcaret : caret.next.size < s.size := by simpa [t] using caret.shorter
    let closing ← (expect caret.next .rbracket (.token .rbracket)).after [caret.token]
    have hclosing : closing.next.size < s.size := by have := closing.shorter; simp at this; omega
    let elem ← operand closing.next
    return finish elem.next
      { kind := .multipointerType, span := start.cover elem.next.lastSpan, type := elem.value }
      (by have := elem.shorter; omega)
  | none, none => do
    let length ← operand t
    have hlength : length.next.size < s.size := by simpa [t] using length.shorter
    let closing ← expect length.next .rbracket (.token .rbracket)
    have hclosing : closing.next.size < s.size := by have := closing.shorter; simp at this; omega
    let elem ← operand closing.next
    return finish elem.next
      { kind := .arrayType, span := start.cover elem.next.lastSpan, type := elem.value,
        value := length.value }
      (by have := elem.shorter; omega)
termination_by 8 * s.size + 4

end

structure Items where
  items : List Expr
  last : TokenStream
  failed : Bool
  events : List ParseEvent

def items (s : TokenStream) : Items :=
  let ⟨t, _ht⟩ := s.skip TokenKind.isSeparator
  let events := .entered :: (s.skipped TokenKind.isSeparator).map .took
  if t.kind == .endOfFile then ⟨[], t, false, events⟩
  else
    let read := expr t
    let events := events ++ read.events
    match read.outcome with
    | .error stopped => ⟨[], stopped, true, events⟩
    | .ok first =>
      let ended := endItem first.next
      let events := events ++ ended.events
      match ended.outcome with
      | .error stopped => ⟨[first.value], stopped, true, events⟩
      | .ok ⟨u, _hu⟩ =>
        let others := items u
        ⟨first.value :: others.items, others.last, others.failed,
          events ++ .again .items s u :: others.events⟩
termination_by s.size
decreasing_by have := first.shorter; omega

/-- The outcome of parsing one file. After a syntax error it holds what was parsed before. -/
structure Parsed where
  file : SyntaxFile
  failed : Bool
  made : Nat
  reports : List Diagnostic
  events : List ParseEvent

def parseTokens (id : FileId) (path : Bytes) (tokens : List Token) : Parsed :=
  let start : TokenStream := { rest := tokens, lastSpan := { file := id } }
  let result := items start.look
  let first := (tokens.head?.map Token.span).getD { file := id }
  { file := {
      path
      span := if result.failed then { file := id } else first.cover result.last.lastSpan
      items := result.items }
    failed := result.failed
    made := result.last.made
    reports := result.last.reports
    events := result.events }

end Keywordless.Syntax

namespace Keywordless

def SourceFile.parse (f : SourceFile) : Syntax.Parsed := Syntax.parseTokens f.id f.path f.tokens

end Keywordless
