import Keywordless.Graph.Basic

/-!
# Questions about nodes

Whether a node denotes a compile-time value, which type it has and which value it denotes. Edges
lead to older nodes, so that the position of a node bounds the walk from it.
-/

namespace Keywordless

namespace Graph

/-- Whether a test holds for every handle. It stops at the first for which it does not. -/
def allHold (test : NodeId → Except Fault Bool) : List NodeId → Except Fault Bool
  | [] => return true
  | id :: rest => do if ← test id then allHold test rest else return false

def isConstantWithin (g : Graph) : Nat → NodeId → Except Fault Bool
  | 0, _ => .error .endless
  | steps + 1, id => do
    match (← g.get id).shape with
    | .constant .. | .typeLiteral .. | .procedure .. => return true
    | .declaration .. => return false
    | .name target => isConstantWithin g steps target
    | .member operand _ _ => isConstantWithin g steps operand
    | .call operand args _ => do
      if ← isConstantWithin g steps operand then allHold (isConstantWithin g steps) args
      else return false
    | .block exprs _ => allHold (isConstantWithin g steps) exprs
    | .cast _ sources => allHold (isConstantWithin g steps) sources
    | .invalid => .error (.noConstancy NodeKind.invalid.title id.index)
    | .unlisted => .error (.noConstancy NodeKind.unlisted.title id.index)

/-- Whether a node denotes a compile-time value. A declaration denotes storage and never does. -/
def isConstant (g : Graph) (id : NodeId) : Except Fault Bool := g.isConstantWithin (id.index + 1) id

def referentWithin (g : Graph) : Nat → NodeId → Except Fault (NodeId × Node)
  | 0, _ => .error .endless
  | steps + 1, id => do
    let node ← g.get id
    match node.shape with
    | .name target => referentWithin g steps target
    | _ => return (id, node)

def referent (g : Graph) (id : NodeId) : Except Fault (NodeId × Node) :=
  g.referentWithin (id.index + 1) id

/-- The type of the value that a node produces. -/
def typeOf (g : Graph) (id : NodeId) : Except Fault TyId := do
  let (_, node) ← g.referent id
  match node.shape with
  | .invalid => .error (.noType id.index)
  | shape => return shape.ownType

structure Unsupported where
  kind : NodeKind
  span : Span
  deriving DecidableEq, Repr

def Unsupported.message (u : Unsupported) : Bytes :=
  u.kind.title ++ ": constant evaluation not yet supported"

def valueAt (id : NodeId) (node : Node) : Except Fault (Except Unsupported Value) :=
  match node.shape with
  | .constant _ _ value => return .ok value
  | .typeLiteral denoted _ => return .ok (.type denoted)
  | .procedure .. => return .ok (.procedure id)
  | .invalid | .unlisted | .name _ => .error (.noValue node.shape.kind.title id.index)
  | shape => return .error ⟨shape.kind, node.span⟩

/-- The value of a constant node. -/
def evaluate (g : Graph) (id : NodeId) : Except Fault (Except Unsupported Value) := do
  if ← g.isConstant id then
    let (last, node) ← g.referent id
    valueAt last node
  else .error (.notConstant id.index)

end Graph

end Keywordless
