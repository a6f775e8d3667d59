import Keywordless.Binding.Scope
import Keywordless.Graph.Dump

/-!
# The universe of a compilation

The files, nodes, types and scopes that binding works on. A fresh universe has the primitive types
bound in its root scope; their names stand in a file of their own.
-/

namespace Keywordless

inductive SliceMember where
  | data
  | length
  deriving DecidableEq, Repr

namespace SliceMember

def name : SliceMember → Bytes
  | data => "data"
  | length => "length"

def index : SliceMember → Nat
  | data => 0
  | length => 1

def all : List SliceMember := [data, length]

def ofName? (name : Bytes) : Option SliceMember := all.find? fun m => m.name == name

def ofIndex? (index : Int) : Option SliceMember := all.find? fun m => (m.index : Int) == index

end SliceMember

structure Universe (τ : Type) where
  files : FileSet
  graph : Graph
  types : TypeStore
  scopes : τ
  builtinFile : FileId

namespace Universe

variable {τ : Type}

/-- The scope of everything at the top of a file. -/
def root : ScopeId := 0

def builtinPath : Bytes := "builtin.nkl"

def builtins : List Primitive := [.type, .void, .u8, .int, .uint]

def builtinText : Bytes := builtins.flatMap fun p => p.name ++ [Bytes.newline]

/-- Binds primitive types whose names start at `offset` of the builtin file. -/
def bindBuiltins [ScopeStore τ] (u : Universe τ) (offset : Nat) :
    List Primitive → Universe τ
  | [] => u
  | p :: rest =>
    let stop := offset + p.name.length
    let shape := Shape.typeLiteral (u.types.primitive p) (u.types.primitive .type)
    let (id, graph) := u.graph.insert ⟨⟨u.builtinFile, offset, stop⟩, shape⟩
    let scopes := ScopeStore.insert u.scopes root p.name id
    bindBuiltins { u with graph, scopes } (stop + 1) rest

def ofFiles [ScopeStore τ] (files : FileSet) : Universe τ :=
  let (builtinFile, files) := files.addVirtual builtinPath builtinText
  bindBuiltins
    { files, builtinFile, graph := { tag := 1 }, types := .seeded 1, scopes := ScopeStore.root }
    0 builtins

def memberName (u : Universe τ) (operand : TyId) (index : Int) : Except Fault (Option Bytes) := do
  if (← u.types.kind operand) == .wrapped .slice then
    return (SliceMember.ofIndex? index).map SliceMember.name
  else return none

def view (u : Universe τ) : DumpView :=
  { graph := u.graph, types := u.types, files := some u.files, memberName := some u.memberName }

def dump (u : Universe τ) (id : NodeId) : Except Fault Dump := u.view.dump id

def lookup [ScopeStore τ] (u : Universe τ) (name : Bytes) : Option NodeId :=
  ScopeStore.lookup u.scopes root name

end Universe

end Keywordless
