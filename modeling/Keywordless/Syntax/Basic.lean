import Keywordless.Source.Span

/-!
# Syntax trees

Untyped expressions. Which parts of a node have a meaning depends on its kind:

* a name or an integer literal has its text,
* a block has a list,
* a constant has a name, an optional type and a value, a declaration a name and optionally both,
* a parenthesised expression has a value, a member access a value and a name,
* a call has a value and a list of arguments,
* a procedure has parameters, a type and a body, a procedure type lacks the body,
* a struct type has a list of fields, an array type a value for its length and a type,
* the slice, multipointer and pointer types have a type.
-/

namespace Keywordless

inductive ExprKind where
  | invalid
  | name
  | intLit
  | block
  | constant
  | declaration
  | paren
  | member
  | call
  | procedure
  | procedureType
  | structType
  | arrayType
  | sliceType
  | multipointerType
  | pointerType
  | unlisted
  deriving DecidableEq, Repr, Inhabited

namespace ExprKind

def all : List ExprKind := [
  invalid, name, intLit, block, constant, declaration, paren, member, call, procedure,
  procedureType, structType, arrayType, sliceType, multipointerType, pointerType]

def ofNumber (n : Nat) : ExprKind := (all[n]?).getD unlisted

def title : ExprKind → Bytes
  | invalid => "Invalid"
  | name => "Name"
  | intLit => "IntLit"
  | block => "Block"
  | constant => "Constant"
  | declaration => "Declaration"
  | paren => "Paren"
  | member => "Member"
  | call => "Call"
  | procedure => "Procedure"
  | procedureType => "ProcedureType"
  | structType => "StructType"
  | arrayType => "ArrayType"
  | sliceType => "SliceType"
  | multipointerType => "MultipointerType"
  | pointerType => "PointerType"
  | unlisted => "ExprKind(?)"

end ExprKind

structure ExprHead where
  kind : ExprKind
  span : Span
  /-- The number of the node in the order of creation, from one. -/
  index : Nat := 0
  nameSpan : Span := {}
  name : Bytes := []
  deriving DecidableEq, Repr, Inhabited

inductive Expr where
  | absent
  | node (head : ExprHead) (type value body : Expr) (list : List Expr)

namespace Expr

instance : Inhabited Expr := ⟨absent⟩

def head : Expr → ExprHead
  | absent => default
  | node h _ _ _ _ => h

def kind (e : Expr) : ExprKind := e.head.kind

def span (e : Expr) : Span := e.head.span

def isAbsent : Expr → Bool
  | absent => true
  | node .. => false

/-- The parts of a node in the order in which they stand in the source. -/
def arranged {α : Type} (kind : ExprKind) (type value body list : List α) : List α :=
  match kind with
  | .arrayType => value ++ type
  | .constant | .declaration => type ++ value
  | .procedure | .procedureType => list ++ type ++ body
  | _ => value ++ type ++ list ++ body

mutual

/-- What `visit` makes of each node and its depth, parents before their parts and the parts in
source order. -/
def collect {α : Type} (visit : ExprHead → Nat → List α) (depth : Nat) : Expr → List α
  | absent => []
  | node h type value body list =>
    visit h depth ++
      arranged h.kind (collect visit (depth + 1) type) (collect visit (depth + 1) value)
        (collect visit (depth + 1) body) (collectAll visit (depth + 1) list)

def collectAll {α : Type} (visit : ExprHead → Nat → List α) (depth : Nat) : List Expr → List α
  | [] => []
  | e :: rest => collect visit depth e ++ collectAll visit depth rest

end

end Expr

structure SyntaxFile where
  path : Bytes
  span : Span
  items : List Expr

end Keywordless
