import Keywordless.Graph.Basic

/-!
# Scopes

A scope binds names to nodes and sees what its parent binds. There are two stores of scopes. In a
frame table each scope holds its own names and the position of its parent; in a table of copies each
scope starts as a full copy of its parent.
-/

namespace Keywordless

abbrev Names := List (Bytes × NodeId)

namespace Names

/-- Binds a name and replaces an earlier binding of it. -/
def bind : Names → Bytes → NodeId → Names
  | [], name, id => [(name, id)]
  | (n, old) :: rest, name, id =>
    if n = name then (name, id) :: rest else (n, old) :: bind rest name id

end Names

abbrev ScopeId := Nat

/-- What a store of scopes offers. -/
class ScopeStore (τ : Type) where
  root : τ
  child : τ → ScopeId → ScopeId × τ
  insert : τ → ScopeId → Bytes → NodeId → τ
  lookup : τ → ScopeId → Bytes → Option NodeId

structure Frame where
  parent : Option ScopeId := none
  names : Names := []

structure FrameTable where
  frames : Array Frame := #[{}]

namespace FrameTable

def child (t : FrameTable) (scope : ScopeId) : ScopeId × FrameTable :=
  (t.frames.size, ⟨t.frames.push { parent := some scope }⟩)

def insert (t : FrameTable) (scope : ScopeId) (name : Bytes) (id : NodeId) : FrameTable :=
  ⟨t.frames.modify scope fun f => { f with names := f.names.bind name id }⟩

def lookupWithin (t : FrameTable) (name : Bytes) : Nat → ScopeId → Option NodeId
  | 0, _ => none
  | steps + 1, scope => do
    let frame ← t.frames[scope]?
    match frame.names.lookup name with
    | some id => some id
    | none => lookupWithin t name steps (← frame.parent)

/-- The innermost binding of a name. Parents are older than their children, so that the position of
the scope bounds the walk. -/
def lookup (t : FrameTable) (scope : ScopeId) (name : Bytes) : Option NodeId :=
  t.lookupWithin name (scope + 1) scope

def nameCount (t : FrameTable) (scope : ScopeId) : Nat :=
  match t.frames[scope]? with
  | some f => f.names.length
  | none => 0

instance : ScopeStore FrameTable where
  root := {}
  child := child
  insert := insert
  lookup := lookup

end FrameTable

/-- Scopes as full tables of the names they see. -/
structure CopyTable where
  tables : Array Names := #[[]]

namespace CopyTable

def child (t : CopyTable) (scope : ScopeId) : ScopeId × CopyTable :=
  (t.tables.size, ⟨t.tables.push (t.tables.getD scope [])⟩)

def insert (t : CopyTable) (scope : ScopeId) (name : Bytes) (id : NodeId) : CopyTable :=
  ⟨t.tables.modify scope fun names => names.bind name id⟩

def lookup (t : CopyTable) (scope : ScopeId) (name : Bytes) : Option NodeId :=
  (t.tables.getD scope []).lookup name

instance : ScopeStore CopyTable where
  root := {}
  child := child
  insert := insert
  lookup := lookup

end CopyTable

end Keywordless
