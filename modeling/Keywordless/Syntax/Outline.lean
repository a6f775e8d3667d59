import Keywordless.Syntax.Basic

/-!
# Outlines

A syntax tree as indented lines, one node a line, and the names it mentions.
-/

namespace Keywordless.SyntaxFile

private def outlineLine (h : ExprHead) (depth : Nat) : Bytes :=
  Bytes.spaces (2 * depth) ++ h.kind.title ++
    (if h.name.isEmpty then [] else Bytes.space :: h.name) ++
    " [" ++ Bytes.ofNat h.span.start ++ ".." ++ Bytes.ofNat h.span.stop ++ "]\n"

def outline (f : SyntaxFile) : Bytes :=
  (Expr.collectAll (fun h depth => [outlineLine h depth]) 0 f.items).flatten

/-- Every name with its place, literals left out. -/
def names (f : SyntaxFile) : List (Bytes × Span) :=
  Expr.collectAll (fun h _ =>
    if h.name.isEmpty || h.kind == .intLit then [] else [(h.name, h.nameSpan)]) 0 f.items

def nodeCount (f : SyntaxFile) : Nat := (Expr.collectAll (fun h _ => [h]) 0 f.items).length

end Keywordless.SyntaxFile
