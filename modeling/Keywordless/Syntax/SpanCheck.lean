import Keywordless.Source.File
import Keywordless.Syntax.Basic
import Keywordless.Text.Quoted

/-!
# Span check

The spans of a syntax tree nest: each is non-empty, lies in the content of its file and in the span
of its parent, and holds the span of its name.
-/

namespace Keywordless

inductive SpanProblem where
  | empty (kind : ExprKind) (span : Span)
  | wrongFile (kind : ExprKind) (found expected : FileId)
  | beyondContent (kind : ExprKind) (stop size : Nat)
  | outsideParent (kind : ExprKind) (span parent : Span)
  | nameOutside (kind : ExprKind) (name : Bytes) (nameSpan span : Span)
  | fileSpanElsewhere (found expected : FileId)
  deriving DecidableEq, Repr

def SpanProblem.message : SpanProblem → Bytes
  | empty kind span => kind.title ++ ": empty span " ++ span.text
  | wrongFile kind found expected =>
    kind.title ++ ": span file mismatch: got=" ++ Bytes.ofNat found ++ " want=" ++
      Bytes.ofNat expected
  | beyondContent kind stop size =>
    kind.title ++ ": span end beyond content: " ++ Bytes.ofNat stop ++ " > " ++ Bytes.ofNat size
  | outsideParent kind span parent =>
    kind.title ++ ": span " ++ span.text ++ " is outside parent span " ++ parent.text
  | nameOutside kind name nameSpan span =>
    kind.title ++ " " ++ Quoted.text name ++ ": name span " ++ nameSpan.text ++ " is outside " ++
      span.text
  | fileSpanElsewhere found expected =>
    "file span points to different file id: got=" ++ Bytes.ofNat found ++ " want=" ++
      Bytes.ofNat expected

namespace Expr

def checkHead (file : FileId) (size : Nat) (parent : Span) (h : ExprHead) :
    Except SpanProblem Unit :=
  let s := h.span
  if s.stop ≤ s.start then .error (.empty h.kind s)
  else if s.file ≠ file then .error (.wrongFile h.kind s.file file)
  else if s.stop > size then .error (.beyondContent h.kind s.stop size)
  else if s.start < parent.start || s.stop > parent.stop then
    .error (.outsideParent h.kind s parent)
  else if h.kind != .intLit && !h.name.isEmpty &&
      (h.nameSpan.start < s.start || h.nameSpan.stop > s.stop) then
    .error (.nameOutside h.kind h.name h.nameSpan s)
  else .ok ()

mutual

def checkSpans (file : FileId) (size : Nat) (parent : Span) : Expr → Except SpanProblem Unit
  | absent => .ok ()
  | node h type value body list => do
    checkHead file size parent h
    checkSpans file size h.span type
    checkSpans file size h.span value
    checkSpans file size h.span body
    checkAllSpans file size h.span list

def checkAllSpans (file : FileId) (size : Nat) (parent : Span) :
    List Expr → Except SpanProblem Unit
  | [] => .ok ()
  | e :: rest => do
    checkSpans file size parent e
    checkAllSpans file size parent rest

end

end Expr

def SyntaxFile.checkSpans (f : SyntaxFile) (source : SourceFile) : Except SpanProblem Unit := do
  Expr.checkAllSpans source.id source.content.length f.span f.items
  if !f.items.isEmpty && f.span.file ≠ source.id then
    .error (.fileSpanElsewhere f.span.file source.id)

end Keywordless
