import Keywordless.Binding.Problem
import Keywordless.Binding.Universe
import Keywordless.Trace.Log

/-!
# Binding actions

Binding changes a universe step by step and may fail. What was done before a failure stays.
-/

namespace Keywordless

structure BindState (τ : Type) where
  world : Universe τ
  log : TraceLog := {}
  parent : Nat := 0

abbrev BindM (τ : Type) := ExceptT BindFailure (StateM (BindState τ))

namespace BindM

variable {τ : Type}

/-- Runs an action; what it changed is kept also when it fails. -/
def exec {α : Type} (action : BindM τ α) (s : BindState τ) : Except BindFailure α × BindState τ :=
  action.run.run s

def world : BindM τ (Universe τ) := return (← get).world

/-- The answer to a question, or the fault of asking it. -/
def ask {α : Type} (answer : Universe τ → Except Fault α) : BindM τ α := do
  match answer (← world) with
  | .ok a => return a
  | .error f => throw (.fault f)

def placeOf (files : FileSet) (span : Span) : Option (Bytes × LineCol) :=
  (files.get? span.file).map fun f => (f.path, (f.resolve span).1)

def fail {α : Type} (problem : BindProblem) (span : Span) (notes : List Note := []) :
    BindM τ α := do
  throw (.error { problem, span, place := placeOf (← world).files span, notes })

def primitive (p : Primitive) : BindM τ TyId := return (← world).types.primitive p

def typeText (id : TyId) : BindM τ Bytes := ask fun u => u.types.format id

def describe (id : TyId) : BindM τ Ty := ask fun u => u.types.get id

def typeOf (id : NodeId) : BindM τ TyId := ask fun u => u.graph.typeOf id

def isConstant (id : NodeId) : BindM τ Bool := ask fun u => u.graph.isConstant id

/-- Asks the type store for a type; what the store entered is kept also when it refuses. -/
def intern (request : TypeStore → Except Fault TyId × TypeStore) : BindM τ TyId := do
  let (result, types) := request (← world).types
  modify fun s => { s with world.types := types }
  match result with
  | .ok id => return id
  | .error f => throw (.fault f)

def wrap (w : Wrapper) (elem : TyId) : BindM τ TyId := intern fun types => types.wrap w elem

def procedureType (params : List TyId) (result : TyId) : BindM τ TyId :=
  intern fun types => types.procedure params result

def make (span : Span) (shape : Shape) : BindM τ NodeId := do
  let (id, graph) := (← world).graph.insert ⟨span, shape⟩
  modify fun s => { s with world.graph := graph }
  return id

def openScope [ScopeStore τ] (scope : ScopeId) : BindM τ ScopeId := do
  let (child, scopes) := ScopeStore.child (← world).scopes scope
  modify fun s => { s with world.scopes := scopes }
  return child

def declare [ScopeStore τ] (scope : ScopeId) (name : Bytes) (id : NodeId) : BindM τ Unit :=
  modify fun s => { s with world.scopes := ScopeStore.insert s.world.scopes scope name id }

def visible? [ScopeStore τ] (scope : ScopeId) (name : Bytes) : BindM τ (Option NodeId) :=
  return ScopeStore.lookup (← world).scopes scope name

/-- Runs an action inside a trace span of its own, which is closed also when the action fails. -/
def traced {α : Type} (name : Bytes) (action : BindM τ α) : BindM τ α :=
  ExceptT.mk fun s =>
    if s.log.level.emits .node then
      let (span, log) := s.log.opened .node name s.parent
      let (result, after) := exec action { s with log, parent := span.id }
      (result, { after with log := after.log.closed span [], parent := s.parent })
    else exec action s

end BindM

end Keywordless
