import Keywordless.Proofs.BindRun

/-!
# Two runs of binding

What binding does to a universe hangs on the graph, on the types and on the names that its scope
sees, and on nothing else. So two runs that start alike end alike, also where their stores of scopes
are of different kinds, as long as those look the same from the scope at hand. A failure points at a
span of the tree.
-/

namespace Keywordless

/-- How two runs are compared. Stores of scopes may look the same from a scope, which looking up
names, opening a scope below it and binding a name in it have to respect; what is done in a scope
does not show in older ones. -/
structure Comparison (τ τ' : Type) [ScopeStore τ] [ScopeStore τ'] where
  agree : ScopeId → τ → τ' → Prop
  sameFiles : Prop
  spots : Span → Prop
  spots_none : spots {}
  known : Graph → Prop
  known_insert : ∀ {g}, known g → ∀ node, known (g.insert node).2
  lookup_eq : ∀ {scope s t}, agree scope s t → ∀ name,
    ScopeStore.lookup s scope name = ScopeStore.lookup t scope name
  child_eq : ∀ {scope s t}, agree scope s t →
    (ScopeStore.child s scope).1 = (ScopeStore.child t scope).1
  child_lt : ∀ {scope s t}, agree scope s t → scope < (ScopeStore.child s scope).1
  child_agree : ∀ {scope s t}, agree scope s t →
    agree (ScopeStore.child s scope).1 (ScopeStore.child s scope).2 (ScopeStore.child t scope).2
  child_kept : ∀ {scope s t i}, agree scope s t → agree i s t →
    agree i (ScopeStore.child s scope).2 (ScopeStore.child t scope).2
  insert_agree : ∀ {scope s t}, agree scope s t → ∀ name id,
    agree scope (ScopeStore.insert s scope name id) (ScopeStore.insert t scope name id)
  insert_kept : ∀ {scope s t i}, agree scope s t → i < scope → agree i s t → ∀ name id,
    agree i (ScopeStore.insert s scope name id) (ScopeStore.insert t scope name id)

namespace Comparison

variable {τ τ' : Type} [ScopeStore τ] [ScopeStore τ'] {α : Type}

/-- Two universes show binding the same, their scopes apart. Nodes other than type literals stand
at spans of the tree. -/
structure Alike (c : Comparison τ τ') (u : Universe τ) (v : Universe τ') : Prop where
  graph : u.graph = v.graph
  types : u.types = v.types
  files : c.sameFiles → u.files = v.files
  spots : ∀ {id node}, u.graph.get? id = some node →
    node.shape.kind ≠ .typeLiteral → c.spots node.span
  known : c.known u.graph

/-- Two runs give the same. Failures may differ in the path and the position that they name if the
files do. -/
inductive Same (c : Comparison τ τ') : Except BindFailure α → Except BindFailure α → Prop
  | ok (a : α) : Same c (.ok a) (.ok a)
  | fault (f : Fault) : Same c (.error (.fault f)) (.error (.fault f))
  | error {problem : BindProblem} {span : Span} {place place' : Option (Bytes × LineCol)}
      {notes : List Note} (placed : c.sameFiles → place = place') (spot : c.spots span)
      (spots : ∀ n ∈ notes, c.spots n.span) :
      Same c (.error (.error ⟨problem, span, place, notes⟩))
        (.error (.error ⟨problem, span, place', notes⟩))

theorem Same.eq {c : Comparison τ τ'} {r r' : Except BindFailure α} (h : c.Same r r')
    (hfiles : c.sameFiles) : r = r' := by
  cases h with
  | ok | fault => rfl
  | error hplaced => rw [hplaced hfiles]

/-- The stores `s'` and `t'` agree on a scope, and on every older one that `s` and `t` agree on. -/
structure Kept (c : Comparison τ τ') (scope : ScopeId) (s : τ) (t : τ') (s' : τ) (t' : τ') :
    Prop where
  here : c.agree scope s' t'
  older : ∀ i < scope, c.agree i s t → c.agree i s' t'

private theorem Kept.refl {c : Comparison τ τ'} {scope : ScopeId} {s : τ} {t : τ'}
    (h : c.agree scope s t) : c.Kept scope s t s t :=
  ⟨h, fun _ _ hs => hs⟩

private theorem Kept.trans {c : Comparison τ τ'} {scope : ScopeId} {s s' s'' : τ} {t t' t'' : τ'}
    (h : c.Kept scope s t s' t') (h' : c.Kept scope s' t' s'' t'') : c.Kept scope s t s'' t'' :=
  ⟨h'.here, fun i hi hs => h'.older i hi (h.older i hi hs)⟩

private theorem Alike.bindBuiltins {c : Comparison τ τ'} {u : Universe τ} {v : Universe τ'}
    (h : c.Alike u v) (hscope : c.agree Universe.root u.scopes v.scopes)
    (hfile : u.builtinFile = v.builtinFile) (offset : Nat) (ps : List Primitive) :
    c.Alike (u.bindBuiltins offset ps) (v.bindBuiltins offset ps) ∧
      c.agree Universe.root (u.bindBuiltins offset ps).scopes
        (v.bindBuiltins offset ps).scopes := by
  induction ps generalizing u v offset with
  | nil => exact ⟨h, hscope⟩
  | cons p rest ih =>
    unfold Universe.bindBuiltins
    rw [h.graph, h.types, hfile]
    apply ih
    · refine ⟨rfl, rfl, h.files, ?_, c.known_insert (h.graph ▸ h.known) _⟩
      intro id node hnode hkind
      obtain ⟨-, rfl⟩ | hold := Arena.get?_insert_cases hnode
      · exact absurd rfl hkind
      · exact h.spots (h.graph ▸ hold) hkind
    · exact c.insert_agree hscope _ _
    · rfl

theorem alike_ofFiles {c : Comparison τ τ'} {files files' : FileSet}
    (hroot : c.agree Universe.root ScopeStore.root ScopeStore.root)
    (hknown : c.known { tag := 1 }) (hsize : files.size = files'.size)
    (hfiles : c.sameFiles → files = files') :
    c.Alike (.ofFiles files) (.ofFiles files') ∧ c.agree Universe.root
      (Universe.ofFiles files).scopes (Universe.ofFiles files').scopes := by
  let added (files : FileSet) := files.addVirtual Universe.builtinPath Universe.builtinText
  let start (σ : Type) [ScopeStore σ] (files : FileSet) : Universe σ :=
    ⟨(added files).2, { tag := 1 }, .seeded 1, ScopeStore.root, (added files).1⟩
  have hempty : c.Alike (start τ files) (start τ' files') := by
    refine ⟨rfl, rfl, fun hsame => by rw [hfiles hsame], ?_, hknown⟩
    intro id node hnode
    change ({ tag := 1 } : Graph).get? id = some node at hnode
    simp [Arena.get?] at hnode
  exact hempty.bindBuiltins hroot hsize 0 Universe.builtins

end Comparison

namespace BindM

variable {τ τ' : Type} [ScopeStore τ] [ScopeStore τ'] {α β : Type}

/-- The two actions do the same in a scope, from any two states that look alike from there. -/
def Mirrored (c : Comparison τ τ') (scope : ScopeId) (a : BindM τ α) (b : BindM τ' α) : Prop :=
  ∀ s t, c.Alike s.world t.world → c.agree scope s.world.scopes t.world.scopes →
    c.Same (exec a s).1 (exec b t).1 ∧
    c.Alike (exec a s).2.world (exec b t).2.world ∧
    c.Kept scope s.world.scopes t.world.scopes
      (exec a s).2.world.scopes (exec b t).2.world.scopes

namespace Mirrored

variable {c : Comparison τ τ'} {scope : ScopeId} {a : BindM τ α} {b : BindM τ' α}
  {f : α → BindM τ β} {g : α → BindM τ' β}

protected theorem pure (x : α) : Mirrored c scope (pure x) (pure x) :=
  fun _ _ hworld hscope => ⟨.ok x, hworld, .refl hscope⟩

protected theorem bind (h : Mirrored c scope a b) (hnext : ∀ x, Mirrored c scope (f x) (g x)) :
    Mirrored c scope (a >>= f) (b >>= g) := by
  intro s t hworld hscope
  obtain ⟨hresult, hworld', hkept⟩ := h s t hworld hscope
  rw [exec_bind, exec_bind]
  rcases hs : exec a s with ⟨ra, s'⟩
  rcases ht : exec b t with ⟨rb, t'⟩
  rw [hs, ht] at hresult hworld' hkept
  cases hresult with
  | ok x =>
    obtain ⟨hresult, hworld'', hkept'⟩ := hnext x s' t' hworld' hkept.here
    exact ⟨hresult, hworld'', hkept.trans hkept'⟩
  | fault e => exact ⟨.fault e, hworld', hkept⟩
  | error hplaced hspan hnotes => exact ⟨.error hplaced hspan hnotes, hworld', hkept⟩

theorem throw (e : Fault) :
    Mirrored c scope (throw (.fault e) : BindM τ α) (throw (.fault e)) :=
  fun _ _ hworld hscope => ⟨.fault e, hworld, .refl hscope⟩

theorem failNoting {problem : BindProblem} {span : Span} {notes : List Note} (hspan : c.spots span)
    (hnotes : ∀ n ∈ notes, c.spots n.span) :
    Mirrored c scope (BindM.fail problem span notes : BindM τ α)
      (BindM.fail problem span notes) := by
  intro s t hworld hscope
  refine ⟨.error (fun hfiles => ?_) hspan hnotes, hworld, .refl hscope⟩
  rw [hworld.files hfiles]

theorem fail {problem : BindProblem} {span : Span} (hspan : c.spots span) :
    Mirrored c scope (BindM.fail problem span : BindM τ α) (BindM.fail problem span) :=
  failNoting hspan (List.forall_mem_nil _)

private theorem ask {p : Universe τ → Except Fault α} {q : Universe τ' → Except Fault α}
    (h : ∀ u v, c.Alike u v → p u = q v) : Mirrored c scope (BindM.ask p) (BindM.ask q) := by
  intro s t hworld hscope
  unfold BindM.ask
  rw [exec_bind, exec_bind, exec_world, exec_world]
  simp only [h _ _ hworld]
  cases q t.world with
  | ok x => exact Mirrored.pure x s t hworld hscope
  | error e => exact Mirrored.throw e s t hworld hscope

theorem ask_bind {p : Universe τ → Except Fault α} {q : Universe τ' → Except Fault α}
    {good : α → Prop} (h : ∀ u v, c.Alike u v → p u = q v)
    (hgood : ∀ u v x, c.Alike u v → p u = .ok x → good x)
    (hnext : ∀ x, good x → Mirrored c scope (f x) (g x)) :
    Mirrored c scope (BindM.ask p >>= f) (BindM.ask q >>= g) := by
  intro s t hworld hscope
  rw [exec_ask_bind, exec_ask_bind, ← h _ _ hworld]
  cases hanswer : p s.world with
  | ok x => exact hnext x (hgood _ _ _ hworld hanswer) s t hworld hscope
  | error e => exact ⟨.fault e, hworld, .refl hscope⟩

theorem askGraph (p : Graph → Except Fault α) :
    Mirrored c scope (BindM.ask fun u => p u.graph) (BindM.ask fun u => p u.graph) :=
  .ask fun _ _ h => congrArg p h.graph

theorem askTypes (p : TypeStore → Except Fault α) :
    Mirrored c scope (BindM.ask fun u => p u.types) (BindM.ask fun u => p u.types) :=
  .ask fun _ _ h => congrArg p h.types

theorem typeOf (id : NodeId) : Mirrored c scope (BindM.typeOf id) (BindM.typeOf id) :=
  .askGraph (·.typeOf id)

theorem isConstant (id : NodeId) : Mirrored c scope (BindM.isConstant id) (BindM.isConstant id) :=
  .askGraph (·.isConstant id)

theorem describe (id : TyId) : Mirrored c scope (BindM.describe id) (BindM.describe id) :=
  .askTypes (·.get id)

theorem typeText (id : TyId) : Mirrored c scope (BindM.typeText id) (BindM.typeText id) :=
  .askTypes (·.format id)

theorem primitive (p : Primitive) :
    Mirrored c scope (BindM.primitive p) (BindM.primitive p) := by
  intro s t hworld hscope
  refine ⟨?_, hworld, .refl hscope⟩
  change c.Same (.ok (s.world.types.primitive p)) (.ok (t.world.types.primitive p))
  rw [hworld.types]
  exact .ok _

private theorem intern (request : TypeStore → Except Fault TyId × TypeStore) :
    Mirrored c scope (BindM.intern request) (BindM.intern request) := by
  intro s t hworld hscope
  rw [exec_intern, exec_intern, hworld.types]
  have hgrown : c.Alike { s.world with types := (request t.world.types).2 }
      { t.world with types := (request t.world.types).2 } :=
    ⟨hworld.graph, rfl, hworld.files, hworld.spots, hworld.known⟩
  refine ⟨?_, hgrown, .refl hscope⟩
  cases (request t.world.types).1 with
  | ok id => exact .ok id
  | error f => exact .fault f

theorem wrap (w : Wrapper) (elem : TyId) :
    Mirrored c scope (BindM.wrap w elem) (BindM.wrap w elem) :=
  .intern _

theorem procedureType (params : List TyId) (result : TyId) :
    Mirrored c scope (BindM.procedureType params result) (BindM.procedureType params result) :=
  .intern _

theorem make {span : Span} (shape : Shape) (hspan : c.spots span) :
    Mirrored c scope (BindM.make span shape) (BindM.make span shape) := by
  intro s t hworld hscope
  have hrun {σ : Type} (s : BindState σ) : exec (BindM.make span shape) s =
      (.ok (s.world.graph.insert ⟨span, shape⟩).1,
        { s with world.graph := (s.world.graph.insert ⟨span, shape⟩).2 }) := rfl
  rw [hrun, hrun, hworld.graph]
  have hknown := c.known_insert hworld.known ⟨span, shape⟩
  refine ⟨.ok _, ⟨rfl, hworld.types, hworld.files, ?_, hworld.graph ▸ hknown⟩, .refl hscope⟩
  intro id node hnode hkind
  obtain ⟨-, rfl⟩ | hold := Arena.get?_insert_cases hnode
  · exact hspan
  · exact hworld.spots (hworld.graph ▸ hold) hkind

theorem visible? (name : Bytes) :
    Mirrored c scope (BindM.visible? scope name) (BindM.visible? scope name) := by
  intro s t hworld hscope
  refine ⟨?_, hworld, .refl hscope⟩
  change c.Same (.ok (ScopeStore.lookup s.world.scopes scope name))
    (.ok (ScopeStore.lookup t.world.scopes scope name))
  rw [c.lookup_eq hscope]
  exact .ok _

theorem declare (name : Bytes) (id : NodeId) :
    Mirrored c scope (BindM.declare scope name id) (BindM.declare scope name id) := by
  intro s t hworld hscope
  refine ⟨.ok (), ⟨hworld.graph, hworld.types, hworld.files, hworld.spots, hworld.known⟩, ?_, ?_⟩
  · exact c.insert_agree hscope name id
  · exact fun i hi hold => c.insert_kept hscope hi hold name id

theorem traced (name : Bytes) (h : Mirrored c scope a b) :
    Mirrored c scope (BindM.traced name a) (BindM.traced name b) := by
  intro s t hworld hscope
  obtain ⟨s', hs, hresult, hafter⟩ := exec_traced name a s
  obtain ⟨t', ht, hresult', hafter'⟩ := exec_traced name b t
  rw [hresult, hresult', hafter, hafter', ← hs, ← ht]
  exact h s' t' (hs ▸ ht ▸ hworld) (hs ▸ ht ▸ hscope)

theorem openScope {f : ScopeId → BindM τ β} {g : ScopeId → BindM τ' β}
    (h : ∀ inner, Mirrored c inner (f inner) (g inner)) :
    Mirrored c scope (BindM.openScope scope >>= f) (BindM.openScope scope >>= g) := by
  intro s t hworld hscope
  have hrun {σ γ : Type} [ScopeStore σ] (k : ScopeId → BindM σ γ) (s : BindState σ) :
      exec (BindM.openScope scope >>= k) s = exec (k (ScopeStore.child s.world.scopes scope).1)
        { s with world.scopes := (ScopeStore.child s.world.scopes scope).2 } := rfl
  rw [hrun, hrun, c.child_eq hscope]
  have hinner := c.child_agree hscope
  rw [c.child_eq hscope] at hinner
  have hopened : c.Alike { s.world with scopes := (ScopeStore.child s.world.scopes scope).2 }
      { t.world with scopes := (ScopeStore.child t.world.scopes scope).2 } :=
    ⟨hworld.graph, hworld.types, hworld.files, hworld.spots, hworld.known⟩
  obtain ⟨hresult, hworld', hkept⟩ := h _ { s with world := _ } { t with world := _ } hopened hinner
  have hlt := c.child_lt hscope
  rw [c.child_eq hscope] at hlt
  refine ⟨hresult, hworld', hkept.older scope hlt (c.child_kept hscope hscope), ?_⟩
  exact fun i hi hold => hkept.older i (hi.trans hlt) (c.child_kept hscope hold)

theorem openScope_bind {a : ScopeId → BindM τ α} {b : ScopeId → BindM τ' α}
    (h : ∀ inner, Mirrored c inner (a inner) (b inner))
    (hnext : ∀ x, Mirrored c scope (f x) (g x)) :
    Mirrored c scope (BindM.openScope scope >>= fun inner => a inner >>= f)
      (BindM.openScope scope >>= fun inner => b inner >>= g) := by
  rw [← bind_assoc, ← bind_assoc]
  exact .bind (.openScope h) hnext

end Mirrored

end BindM

end Keywordless
