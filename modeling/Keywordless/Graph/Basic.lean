import Keywordless.Source.Span
import Keywordless.Ty.Store

/-!
# The bound graph

Nodes are what expressions mean after names and types are settled. Every edge is a handle of a node
that was made earlier.
-/

namespace Keywordless

inductive NodeKind where
  | invalid
  | block
  | constant
  | declaration
  | typeLiteral
  | name
  | member
  | call
  | cast
  | procedure
  | unlisted
  deriving DecidableEq, Repr

namespace NodeKind

def all : List NodeKind :=
  [invalid, block, constant, declaration, typeLiteral, name, member, call, cast, procedure]

def ofNumber (n : Nat) : NodeKind := (all[n]?).getD unlisted

def title : NodeKind → Bytes
  | invalid => "invalid"
  | block => "block"
  | constant => "constant"
  | declaration => "declaration"
  | typeLiteral => "type"
  | name => "name"
  | member => "member"
  | call => "call"
  | cast => "cast"
  | procedure => "procedure"
  | unlisted => "NodeKind(?)"

end NodeKind

inductive NodeSpace
  deriving DecidableEq, Repr

abbrev NodeId := Handle NodeSpace

inductive Value where
  | invalid
  | type (id : TyId)
  | procedure (id : NodeId)
  | int (value : Nat)
  deriving DecidableEq, Repr

def Value.text : Value → Bytes
  | invalid => "<invalid>"
  | type id => "type " ++ id.text
  | procedure id => "procedure " ++ id.text
  | int value => Bytes.ofNat value

/-- What a node means. -/
inductive Shape where
  | invalid
  | block (exprs : List NodeId) (type : TyId)
  | constant (name : Bytes) (type : TyId) (value : Value)
  | declaration (name : Bytes) (type : TyId) (init : Option NodeId)
  /-- A type used as an expression; its own type is the type of types. -/
  | typeLiteral (denoted type : TyId)
  | name (target : NodeId)
  | member (operand : NodeId) (index : Int) (type : TyId)
  | call (operand : NodeId) (args : List NodeId) (type : TyId)
  | cast (type : TyId) (sources : List NodeId)
  | procedure (params : List NodeId) (returns type : TyId) (body : NodeId)
  | unlisted
  deriving DecidableEq, Repr

namespace Shape

def kind : Shape → NodeKind
  | invalid => .invalid
  | block .. => .block
  | constant .. => .constant
  | declaration .. => .declaration
  | typeLiteral .. => .typeLiteral
  | name .. => .name
  | member .. => .member
  | call .. => .call
  | cast .. => .cast
  | procedure .. => .procedure
  | unlisted => .unlisted

def blank : NodeKind → Shape
  | .invalid => invalid
  | .block => block [] Handle.none
  | .constant => constant [] Handle.none .invalid
  | .declaration => declaration [] Handle.none Option.none
  | .typeLiteral => typeLiteral Handle.none Handle.none
  | .name => name Handle.none
  | .member => member Handle.none 0 Handle.none
  | .call => call Handle.none [] Handle.none
  | .cast => cast Handle.none []
  | .procedure => procedure [] Handle.none Handle.none Handle.none
  | .unlisted => unlisted

def label : Shape → Bytes
  | constant label _ _ => label
  | declaration label _ _ => label
  | _ => []

/-- The type that a node has by itself; a name takes the type of its target. -/
def ownType : Shape → TyId
  | block _ type => type
  | constant _ type _ => type
  | declaration _ type _ => type
  | typeLiteral _ type => type
  | member _ _ type => type
  | call _ _ type => type
  | cast type _ => type
  | procedure _ _ type _ => type
  | invalid | name _ | unlisted => Handle.none

/-- The nodes that a node refers to. -/
def edges : Shape → List NodeId
  | block exprs _ => exprs
  | constant _ _ (.procedure id) => [id]
  | declaration _ _ init => init.toList
  | name target => [target]
  | member operand _ _ => [operand]
  | call operand args _ => operand :: args
  | cast _ sources => sources
  | procedure params _ _ body => params ++ [body]
  | invalid | constant .. | typeLiteral .. | unlisted => []

end Shape

structure Node where
  span : Span
  shape : Shape
  deriving DecidableEq, Repr

abbrev Graph := Arena NodeSpace Node

end Keywordless
