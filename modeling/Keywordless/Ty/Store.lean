import Keywordless.Ty.Basic

/-!
# The type store

Descriptors of types, the primitive ones first, with tables of the compound types that were built.
A compound type is looked up in its table before it is inserted, so that two handles of one store
are equal exactly when their types are.
-/

namespace Keywordless

/-- Handles of compound types by the handle of a component. A later entry replaces an earlier
one. -/
abbrev TypeTable := List (TyId × TyId)

structure TypeStore extends Arena TySpace Ty where
  slices : TypeTable := []
  pointers : TypeTable := []
  multipointers : TypeTable := []
  procedures : List (Bytes × TypeTable) := []

namespace TypeStore

def seeded (tag : Nat) : TypeStore := { tag, items := (Primitive.all.map Ty.primitive).toArray }

def primitive (s : TypeStore) (p : Primitive) : TyId := ⟨s.tag, p.place⟩

def wrapped (s : TypeStore) : Wrapper → TypeTable
  | .slice => s.slices
  | .pointer => s.pointers
  | .multipointer => s.multipointers

def keepWrapped (s : TypeStore) (w : Wrapper) (elem id : TyId) : TypeStore :=
  match w with
  | .slice => { s with slices := (elem, id) :: s.slices }
  | .pointer => { s with pointers := (elem, id) :: s.pointers }
  | .multipointer => { s with multipointers := (elem, id) :: s.multipointers }

def store (s : TypeStore) (t : Ty) : TyId × TypeStore :=
  let (id, arena) := s.toArena.insert t
  (id, { s with toArena := arena })

def wrap (s : TypeStore) (w : Wrapper) (elem : TyId) : Except Fault TyId × TypeStore :=
  match (s.wrapped w).lookup elem with
  | some id => (.ok id, s)
  | none =>
    match s.get elem with
    | .error f => (.error f, s)
    | .ok _ =>
      let (id, s) := s.store (.wrapped w elem)
      (.ok id, s.keepWrapped w elem id)

def paramsText (params : List TyId) : Bytes :=
  Bytes.join "," (params.map fun p => Bytes.ofNat p.index)

/-- The text under which the procedure types with these parameters are kept. -/
def paramsKey (s : TypeStore) (params : List TyId) : Except Fault Bytes := do
  params.forM fun p => discard (s.get p)
  return paramsText params

def openTable (s : TypeStore) (key : Bytes) : TypeTable × TypeStore :=
  match s.procedures.lookup key with
  | some table => (table, s)
  | none => ([], { s with procedures := (key, []) :: s.procedures })

/-- The type of procedures with these parameters and this result. The table for the parameters is
there afterwards also when the result is refused. -/
def procedure (s : TypeStore) (params : List TyId) (result : TyId) :
    Except Fault TyId × TypeStore :=
  match s.paramsKey params with
  | .error f => (.error f, s)
  | .ok key =>
    let (table, s) := s.openTable key
    match table.lookup result with
    | some id => (.ok id, s)
    | none =>
      match s.get result with
      | .error f => (.error f, s)
      | .ok _ =>
        let (id, s) := s.store (.procedure params result)
        (.ok id, { s with procedures := (key, (result, id) :: table) :: s.procedures })

def kind (s : TypeStore) (id : TyId) : Except Fault TyKind := return (← s.get id).kind

def sizeOf (s : TypeStore) (id : TyId) : Except Fault Nat := return (← s.kind id).size

def isProcedure (s : TypeStore) (id : TyId) (params : List TyId) (result : TyId) :
    Except Fault Bool := return (← s.get id) == .procedure params result

/-- The term of a type whose components are reached in at most `steps` steps. -/
def unfoldWithin (s : TypeStore) : Nat → TyId → Except Fault TyTerm
  | 0, _ => .error .endless
  | steps + 1, id => do
    match ← s.get id with
    | .primitive p => return .primitive p
    | .wrapped w elem => return .wrapped w (← unfoldWithin s steps elem)
    | .procedure params result =>
      return .procedure (← params.mapM (unfoldWithin s steps)) (← unfoldWithin s steps result)

/-- The term that a handle stands for. Components are older than what is built from them, so that
the position of the handle bounds the steps. -/
def unfold (s : TypeStore) (id : TyId) : Except Fault TyTerm := s.unfoldWithin (id.index + 1) id

def format (s : TypeStore) (id : TyId) : Except Fault Bytes :=
  if id.isIssued then return (← s.unfold id).text else return "<none>"

end TypeStore

end Keywordless
