import Keywordless.Binding.Universe
import Keywordless.Proofs.Frames
import Keywordless.Proofs.GraphWalk
import Keywordless.Proofs.Interning

/-!
# Well-typed graphs

The typing rule of each kind of node, and the invariant of a universe in which every node follows
its rule. The rules speak of types and of older nodes only, so that they keep to hold when nodes and
types are added.
-/

namespace Keywordless

def Value.Inhabits (g : Graph) (types : TypeStore) (type : TyId) : Value → Prop
  | .invalid => False
  | .type id => type = types.primitive .type ∧ types.Issued id
  | .int n => ∃ p, p.isInteger ∧ type = types.primitive p ∧ n ≤ p.largest
  | .procedure id => ∃ span params returns body,
      g.get? id = some ⟨span, .procedure params returns type body⟩

/-- The typing rule of a node. A block that stands for a whole file has no value. -/
def Shape.WellTyped (g : Graph) (types : TypeStore) (wholeFile : Prop) : Shape → Prop
  | .block exprs type =>
    (wholeFile → type = types.primitive .void) ∧
    (¬ wholeFile → match exprs.getLast? with
      | some last => g.typeOf last = .ok type
      | none => type = types.primitive .void)
  | .constant _ type value => value.Inhabits g types type
  | .declaration _ type init => ∀ value ∈ init, g.typeOf value = .ok type
  | .typeLiteral denoted type => type = types.primitive .type ∧ types.Issued denoted
  | .name target => g.Issued target
  | .member operand index type =>
    ∃ whole elem, g.typeOf operand = .ok whole ∧ types.get? whole = some (.wrapped .slice elem) ∧
      (index = 0 ∧ types.get? type = some (.wrapped .multipointer elem) ∨
        index = 1 ∧ type = types.primitive .uint)
  | .call operand args type =>
    ∃ callee params, g.typeOf operand = .ok callee ∧
      types.get? callee = some (.procedure params type) ∧
      List.Forall₂ (fun arg param => g.typeOf arg = .ok param) args params
  | .cast type sources =>
    type = types.primitive .int ∧
      ∃ source, sources = [source] ∧ g.typeOf source = .ok (types.primitive .uint)
  | .procedure params returns type body =>
    ∃ signature, types.get? type = some (.procedure signature returns) ∧
      List.Forall₂ (fun param t => ∃ span name,
        g.get? param = some ⟨span, .declaration name t none⟩) params signature ∧
      g.typeOf body = .ok returns
  | .invalid | .unlisted => False

theorem TypeStore.primitive_kept {types types' : TypeStore}
    (h : types.toArena.Extends types'.toArena) (p : Primitive) :
    types'.primitive p = types.primitive p := by
  simp only [TypeStore.primitive, h.tag]

private theorem Value.Inhabits.mono {g g' : Graph} {types types' : TypeStore} {type : TyId}
    {value : Value} (hg : g.Extends g') (ht : types.toArena.Extends types'.toArena)
    (h : value.Inhabits g types type) : value.Inhabits g' types' type := by
  cases value with
  | invalid => exact h
  | type id =>
    obtain ⟨rfl, hid⟩ := h
    exact ⟨(TypeStore.primitive_kept ht _).symm, ht.issued hid⟩
  | int n =>
    obtain ⟨p, hp, rfl, hn⟩ := h
    exact ⟨p, hp, (TypeStore.primitive_kept ht _).symm, hn⟩
  | procedure id =>
    obtain ⟨span, params, returns, body, hid⟩ := h
    exact ⟨span, params, returns, body, hg.kept hid⟩

private theorem Shape.WellTyped.mono {g g' : Graph} {types types' : TypeStore} {wholeFile : Prop}
    {shape : Shape} (hg : g.Extends g') (ht : types.toArena.Extends types'.toArena)
    (h : shape.WellTyped g types wholeFile) : shape.WellTyped g' types' wholeFile := by
  have hprimitive := TypeStore.primitive_kept ht
  cases shape with
  | invalid | unlisted => exact h
  | block exprs type =>
    refine ⟨fun hw => (h.1 hw).trans (hprimitive _).symm, fun hw => ?_⟩
    have hlast := h.2 hw
    cases hexprs : exprs.getLast? with
    | some last =>
      rw [hexprs] at hlast
      exact Graph.typeOf_kept hg hlast
    | none =>
      rw [hexprs] at hlast
      exact hlast.trans (hprimitive _).symm
  | constant _ type value => exact Value.Inhabits.mono hg ht h
  | declaration _ type init => exact fun value hv => Graph.typeOf_kept hg (h value hv)
  | typeLiteral denoted type => exact ⟨h.1.trans (hprimitive _).symm, ht.issued h.2⟩
  | name target => exact hg.issued h
  | member operand index type =>
    obtain ⟨whole, elem, hwhole, hslice, hindex⟩ := h
    refine ⟨whole, elem, Graph.typeOf_kept hg hwhole, ht.kept hslice, ?_⟩
    obtain ⟨hi, htype⟩ | ⟨hi, htype⟩ := hindex
    · exact .inl ⟨hi, ht.kept htype⟩
    · exact .inr ⟨hi, htype.trans (hprimitive _).symm⟩
  | call operand args type =>
    obtain ⟨callee, params, hcallee, hsignature, hargs⟩ := h
    exact ⟨callee, params, Graph.typeOf_kept hg hcallee, ht.kept hsignature,
      hargs.imp fun _ _ harg => Graph.typeOf_kept hg harg⟩
  | cast type sources =>
    obtain ⟨htype, source, hsources, hsource⟩ := h
    exact ⟨htype.trans (hprimitive _).symm, source, hsources,
      (hprimitive _).symm ▸ Graph.typeOf_kept hg hsource⟩
  | procedure params returns type body =>
    obtain ⟨signature, htype, hparams, hbody⟩ := h
    refine ⟨signature, ht.kept htype, hparams.imp ?_, Graph.typeOf_kept hg hbody⟩
    rintro param t ⟨span, name, hparam⟩
    exact ⟨span, name, hg.kept hparam⟩

structure Universe.Extends {τ : Type} (u v : Universe τ) : Prop where
  graph : u.graph.Extends v.graph
  types : u.types.toArena.Extends v.types.toArena

namespace Universe

theorem Extends.refl {τ : Type} (u : Universe τ) : u.Extends u := ⟨.refl _, .refl _⟩

theorem Extends.trans {τ : Type} {u v w : Universe τ} (huv : u.Extends v) (hvw : v.Extends w) :
    u.Extends w :=
  ⟨huv.graph.trans hvw.graph, huv.types.trans hvw.types⟩

theorem Extends.hint {τ : Type} {u v : Universe τ} (h : u.Extends v) {hint : Option TyId}
    (hhint : ∀ t ∈ hint, u.types.Issued t) : ∀ t ∈ hint, v.types.Issued t :=
  fun t ht => h.types.issued (hhint t ht)

/-- The name denotes a node of the graph. Only builtin names denote type literals. -/
def Denotes (g : Graph) (name : Bytes) (id : NodeId) : Prop :=
  ∃ node, g.get? id = some node ∧
    (node.shape.kind = .typeLiteral → name ∈ builtins.map Primitive.name)

theorem Denotes.issued {g : Graph} {name : Bytes} {id : NodeId} (h : Denotes g name id) :
    g.Issued id := by
  obtain ⟨node, hnode, -⟩ := h
  exact ⟨node, hnode⟩

/-- The invariant of a universe in which the blocks `roots` stand for whole files: every node
follows its typing rule, refers to older nodes and has a type of the store, and every name denotes
a node. -/
structure Sound (roots : List NodeId) (u : Universe FrameTable) : Prop where
  types : u.types.Canonical
  ordered : u.graph.Ordered
  typed : ∀ {id node}, u.graph.get? id = some node →
    node.shape.WellTyped u.graph u.types (id ∈ roots)
  ownType : ∀ {id node}, u.graph.get? id = some node → (∀ target, node.shape ≠ .name target) →
    u.types.Issued node.shape.ownType
  names : ∀ {frame entry}, frame ∈ u.scopes.frames → entry ∈ frame.names →
    Denotes u.graph entry.1 entry.2
  roots : ∀ root ∈ roots, u.graph.Issued root

namespace Sound

variable {roots : List NodeId} {u : Universe FrameTable}

theorem typeOf (h : u.Sound roots) {id : NodeId} (hid : u.graph.Issued id) :
    ∃ type, u.graph.typeOf id = .ok type ∧ u.types.Issued type := by
  obtain ⟨last, node, hwalk, hlast, hname⟩ := Graph.referent_total h.ordered hid
  exact ⟨node.shape.ownType, Graph.typeOf_eq_ownType h.ordered hwalk hlast, h.ownType hlast hname⟩

/-- A constant node either evaluates to a value of its type or cannot be evaluated yet. -/
theorem evaluate (h : u.Sound roots) {id : NodeId} {type : TyId} (hid : u.graph.Issued id)
    (hconstant : u.graph.isConstant id = .ok true) (htype : u.graph.typeOf id = .ok type) :
    ∃ outcome, u.graph.evaluate id = .ok outcome ∧
      ∀ value, outcome = .ok value → value.Inhabits u.graph u.types type := by
  obtain ⟨last, node, hwalk, hlast, hname⟩ := Graph.referent_total h.ordered hid
  have hown := Graph.typeOf_eq_ownType h.ordered hwalk hlast
  obtain rfl : node.shape.ownType = type := Except.ok.inj (hown.symm.trans htype)
  obtain ⟨outcome, houtcome⟩ := Graph.evaluate_total h.ordered hid hconstant
  refine ⟨outcome, houtcome, ?_⟩
  rintro value rfl
  rw [Graph.evaluate_eq_valueAt hconstant hwalk] at houtcome
  have htyped := h.typed hlast
  obtain ⟨span, shape⟩ := node
  cases shape with
  | constant name own held =>
    obtain rfl : held = value := Except.ok.inj (Except.ok.inj houtcome)
    exact htyped
  | typeLiteral denoted own =>
    obtain rfl : .type denoted = value := Except.ok.inj (Except.ok.inj houtcome)
    exact htyped
  | procedure params returns own body =>
    obtain rfl : .procedure last = value := Except.ok.inj (Except.ok.inj houtcome)
    exact ⟨span, params, returns, body, hlast⟩
  | _ => simp [Graph.valueAt, pure, Except.pure] at houtcome

theorem eq_type (h : u.Sound roots) {value : Value}
    (hvalue : value.Inhabits u.graph u.types (u.types.primitive .type)) :
    ∃ id, value = .type id := by
  cases value with
  | type id => exact ⟨id, rfl⟩
  | invalid => exact hvalue.elim
  | int n =>
    obtain ⟨p, hinteger, htype, -⟩ := hvalue
    have hplace : Primitive.place .type = p.place := congrArg Handle.index htype
    cases p <;> cases hplace
    cases hinteger
  | procedure id =>
    obtain ⟨span, params, returns, body, hid⟩ := hvalue
    obtain ⟨signature, hsignature, -⟩ := h.typed hid
    rw [h.types.get?_primitive] at hsignature
    cases hsignature

/-- A node that follows its rule and refers to nodes of the graph may be added. Of the nodes that
were there before, the same ones stand for whole files. -/
private theorem insert_node (h : u.Sound roots) {node : Node} {roots' : List NodeId}
    (htyped : node.shape.WellTyped u.graph u.types ((u.graph.insert node).1 ∈ roots'))
    (hedges : ∀ e ∈ node.shape.edges, u.graph.Issued e)
    (hown : (∀ target, node.shape ≠ .name target) → u.types.Issued node.shape.ownType)
    (hold : ∀ id, u.graph.Issued id → (id ∈ roots' ↔ id ∈ roots))
    (hroots : ∀ root ∈ roots', (u.graph.insert node).2.Issued root) :
    { u with graph := (u.graph.insert node).2 }.Sound roots' := by
  have hgrow := Arena.insert_extends u.graph node
  have hcases {id : NodeId} {found : Node} (hf : (u.graph.insert node).2.get? id = some found) :
      (id = (u.graph.insert node).1 ∧ found = node) ∨ u.graph.get? id = some found :=
    Arena.get?_insert_cases hf
  have hvalid : node.shape ≠ .invalid := by
    intro hshape
    rw [hshape] at htyped
    exact htyped
  have hlisted : node.shape ≠ .unlisted := by
    intro hshape
    rw [hshape] at htyped
    exact htyped
  -- Each part of the invariant is shown of the new node and kept of the others.
  refine ⟨h.types, h.ordered.insert hedges hvalid hlisted, ?_, ?_, ?_, hroots⟩
  · intro id found hf
    obtain ⟨rfl, rfl⟩ | hf := hcases hf
    · exact htyped.mono hgrow (.refl _)
    · rw [propext (hold id ⟨found, hf⟩)]
      exact (h.typed hf).mono hgrow (.refl _)
  · intro id found hf hname
    obtain ⟨rfl, rfl⟩ | hf := hcases hf
    · exact hown hname
    · exact h.ownType hf hname
  · intro frame entry hframe hentry
    obtain ⟨named, hnamed, hbuiltin⟩ := h.names hframe hentry
    exact ⟨named, hgrow.kept hnamed, hbuiltin⟩

theorem make (h : u.Sound roots) {node : Node}
    (htyped : node.shape.WellTyped u.graph u.types False)
    (hedges : ∀ e ∈ node.shape.edges, u.graph.Issued e)
    (hown : (∀ target, node.shape ≠ .name target) → u.types.Issued node.shape.ownType) :
    { u with graph := (u.graph.insert node).2 }.Sound roots := by
  have hnew : (u.graph.insert node).1 ∉ roots := fun hr =>
    Arena.insert_not_issued u.graph node (h.roots _ hr)
  refine h.insert_node ?_ hedges hown (fun _ _ => Iff.rfl) ?_
  · rwa [eq_false hnew]
  · exact fun root hr => (Arena.insert_extends u.graph node).issued (h.roots root hr)

theorem makeRoot (h : u.Sound roots) {span : Span} {exprs : List NodeId}
    (hexprs : ∀ e ∈ exprs, u.graph.Issued e) :
    let made := u.graph.insert ⟨span, .block exprs (u.types.primitive .void)⟩
    { u with graph := made.2 }.Sound (made.1 :: roots) := by
  intro made
  have hissued : made.2.Issued made.1 := ⟨_, Arena.get?_insert_self u.graph _⟩
  refine h.insert_node ?_ hexprs (fun _ => ⟨_, h.types.get?_primitive .void⟩) ?_ ?_
  · exact ⟨fun _ => rfl, fun hn => absurd List.mem_cons_self hn⟩
  · intro id hid
    have hne : id ≠ made.1 := by
      rintro rfl
      exact Arena.insert_not_issued u.graph _ hid
    simp [hne]
  · intro root hr
    obtain rfl | hr := List.mem_cons.mp hr
    · exact hissued
    · exact (Arena.insert_extends u.graph _).issued (h.roots root hr)

theorem withTypes (h : u.Sound roots) {types : TypeStore} (hcanonical : types.Canonical)
    (hgrow : u.types.toArena.Extends types.toArena) : { u with types := types }.Sound roots where
  types := hcanonical
  ordered := h.ordered
  typed hf := (h.typed hf).mono (.refl _) hgrow
  ownType hf hname := hgrow.issued (h.ownType hf hname)
  names := h.names
  roots := h.roots

private theorem withScopes (h : u.Sound roots) {scopes : FrameTable}
    (hnames : ∀ {frame entry}, frame ∈ scopes.frames → entry ∈ frame.names →
      Denotes u.graph entry.1 entry.2) : { u with scopes := scopes }.Sound roots :=
  ⟨h.types, h.ordered, h.typed, h.ownType, hnames, h.roots⟩

theorem withFiles (h : u.Sound roots) (files : FileSet) : { u with files := files }.Sound roots :=
  ⟨h.types, h.ordered, h.typed, h.ownType, h.names, h.roots⟩

theorem openScope (h : u.Sound roots) (scope : ScopeId) :
    { u with scopes := (ScopeStore.child u.scopes scope).2 }.Sound roots := by
  apply h.withScopes
  intro frame entry hframe hentry
  obtain ⟨old, hold, hentry⟩ := FrameTable.mem_child hframe hentry
  exact h.names hold hentry

theorem declare (h : u.Sound roots) (scope : ScopeId) {name : Bytes} {id : NodeId}
    (hid : Denotes u.graph name id) :
    { u with scopes := ScopeStore.insert u.scopes scope name id }.Sound roots := by
  apply h.withScopes
  intro frame entry hframe hentry
  obtain rfl | ⟨old, hold, hentry⟩ := FrameTable.mem_insert hframe hentry
  · exact hid
  · exact h.names hold hentry

theorem lookup (h : u.Sound roots) {scope : ScopeId} {name : Bytes} {id : NodeId}
    (hid : ScopeStore.lookup u.scopes scope name = some id) : Denotes u.graph name id := by
  obtain ⟨frame, hframe, hentry⟩ := FrameTable.mem_of_lookup hid
  exact h.names hframe hentry

private theorem mem_builtins (p : Primitive) : p ∈ builtins := by cases p <;> decide

private theorem bindBuiltins (h : u.Sound roots) (offset : Nat) (ps : List Primitive) :
    (u.bindBuiltins offset ps).Sound roots := by
  induction ps generalizing u offset with
  | nil => exact h
  | cons p rest ih =>
    have hissued (p : Primitive) : u.types.Issued (u.types.primitive p) :=
      ⟨_, h.types.get?_primitive p⟩
    let shape := Shape.typeLiteral (u.types.primitive p) (u.types.primitive .type)
    let node : Node := ⟨⟨u.builtinFile, offset, offset + p.name.length⟩, shape⟩
    have hmade : { u with graph := (u.graph.insert node).2 }.Sound roots :=
      h.make ⟨rfl, hissued p⟩ (by simp [node, shape, Shape.edges]) fun _ => hissued .type
    have hid : Denotes (u.graph.insert node).2 p.name (u.graph.insert node).1 :=
      ⟨node, Arena.get?_insert_self u.graph node, fun _ => List.mem_map_of_mem (mem_builtins p)⟩
    exact ih (hmade.declare Universe.root hid) _

end Sound

theorem ofFiles_sound (files : FileSet) : (ofFiles files : Universe FrameTable).Sound [] := by
  have hempty (id : NodeId) : ({ tag := 1 } : Graph).get? id = none := by simp [Arena.get?]
  refine Sound.bindBuiltins ?_ 0 builtins
  refine ⟨TypeStore.seeded_canonical 1, ⟨?_, ?_, ?_⟩, ?_, ?_, ?_, by simp⟩
  case refine_6 =>
    intro frame entry hframe hentry
    obtain rfl := Array.mem_singleton.mp hframe
    simp at hentry
  all_goals
    intro id node h
    simp [hempty] at h

end Universe

end Keywordless
