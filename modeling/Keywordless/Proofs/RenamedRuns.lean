import Keywordless.Proofs.BindRun
import Keywordless.Proofs.Renaming

/-!
# Binding under other handles

Binding asks for the nodes that it made before and otherwise does not look at handles. So two runs
that start with the same universe under different handles stay that way, and fail in the same way.
Each basic action has one rule.
-/

namespace Keywordless

namespace Universe

structure Linked (u : Universe FrameTable) : Prop where
  ordered : u.graph.Ordered
  names : ∀ {frame entry}, frame ∈ u.scopes.frames → entry ∈ frame.names →
    u.graph.Issued entry.2

/-- The universe `v` holds what `u` holds under other handles. -/
structure Renamed (ρ : Renaming) (u v : Universe FrameTable) : Prop where
  graph : u.graph.Renamed ρ v.graph
  types : v.types = u.types
  scopes : v.scopes = u.scopes.rename ρ
  files : v.files = u.files
  builtinFile : v.builtinFile = u.builtinFile

theorem Sound.linked {roots : List NodeId} {u : Universe FrameTable} (h : u.Sound roots) :
    u.Linked :=
  ⟨h.ordered, fun hframe hentry => (h.names hframe hentry).issued⟩

end Universe

namespace BindM

variable {α β γ δ : Type}

/-- Two runs end alike. Problems that binding cannot meet may differ. -/
inductive Corresponds (R : α → β → Prop) : Except BindFailure α → Except BindFailure β → Prop
  | ok {a : α} {b : β} (h : R a b) : Corresponds R (.ok a) (.ok b)
  | fault (f f' : Fault) : Corresponds R (.error (.fault f)) (.error (.fault f'))
  | error (e : BindError) : Corresponds R (.error (.error e)) (.error (.error e))
  | unreachable {e e' : BindError} (h : e.problem.isReachable = false) :
      Corresponds R (.error (.error e)) (.error (.error e'))

/-- How two runs end that began with the universe `u` and the same one under other handles. -/
structure EndAlike (ρ : Renaming) (scope : ScopeId) (u : Universe FrameTable)
    (R : Graph → α → β → Prop) (r : Except BindFailure α × BindState FrameTable)
    (r' : Except BindFailure β × BindState FrameTable) : Prop where
  linked : r.2.world.Linked
  renamed : r.2.world.Renamed ρ r'.2.world
  grown : u.graph.Extends r.2.world.graph
  keeps : FrameTable.Keeps scope u.scopes r.2.world.scopes
  result : Corresponds (R r.2.world.graph) r.1 r'.1

/-- The two actions do the same in universes that differ in handles, once all of `g` is there. They
bind names in the scope only. -/
def Renames (ρ : Renaming) (scope : ScopeId) (g : Graph) (a : BindM FrameTable α)
    (b : BindM FrameTable β) (R : Graph → α → β → Prop) : Prop :=
  ∀ s t, s.world.Linked → s.world.Renamed ρ t.world → g.Extends s.world.graph →
    EndAlike ρ scope s.world R (exec a s) (exec b t)

def Equal (_ : Graph) (a b : α) : Prop := b = a

def SameNode (ρ : Renaming) (g : Graph) (a b : NodeId) : Prop := g.Issued a ∧ b = ρ a

def SameNodes (ρ : Renaming) (g : Graph) (as bs : List NodeId) : Prop :=
  (∀ a ∈ as, g.Issued a) ∧ bs = as.map ρ

def SameNode? (ρ : Renaming) (g : Graph) (a b : Option NodeId) : Prop :=
  (∀ id ∈ a, g.Issued id) ∧ b = a.map ρ

namespace Renames

variable {ρ : Renaming} {scope : ScopeId} {g g' : Graph} {a : BindM FrameTable α}
  {b : BindM FrameTable β} {f : α → BindM FrameTable γ} {f' : β → BindM FrameTable δ}
  {R : Graph → α → β → Prop} {R' : Graph → γ → δ → Prop} {span : Span} {id : NodeId}

private theorem later (h : Renames ρ scope g a b R) (hgrow : g.Extends g') :
    Renames ρ scope g' a b R :=
  fun s t hs hr hg => h s t hs hr (hgrow.trans hg)

protected theorem pure {x : α} {y : β} (h : ∀ g', g.Extends g' → R g' x y) :
    Renames ρ scope g (pure x) (pure y) R :=
  fun s _ hs hr hg => ⟨hs, hr, .refl _, .refl _ _, .ok (h s.world.graph hg)⟩

theorem pure_equal (x : α) : Renames ρ scope g (pure x) (pure x) Equal := .pure fun _ _ => rfl

theorem pure_node (hid : g.Issued id) :
    Renames ρ scope g (pure id) (pure (ρ id)) (SameNode ρ) :=
  .pure fun _ hgrow => ⟨hgrow.issued hid, rfl⟩

theorem pure_nodes {ids : List NodeId} (hids : ∀ id ∈ ids, g.Issued id) :
    Renames ρ scope g (pure ids) (pure (ids.map ρ)) (SameNodes ρ) :=
  .pure fun _ hgrow => ⟨fun id hid => hgrow.issued (hids id hid), rfl⟩

protected theorem bind (h : Renames ρ scope g a b R)
    (hnext : ∀ x y g', g.Extends g' → R g' x y → Renames ρ scope g' (f x) (f' y) R') :
    Renames ρ scope g (a >>= f) (b >>= f') R' := by
  intro s t hs hr hg
  have hfirst := h s t hs hr hg
  rw [exec_bind, exec_bind]
  generalize exec a s = r, exec b t = r' at hfirst ⊢
  obtain ⟨r, s'⟩ := r
  obtain ⟨r', t'⟩ := r'
  obtain ⟨hlinked, hrenamed, hgrown, hkeeps, hresult⟩ := hfirst
  cases hresult with
  | ok hxy =>
    have hsecond := hnext _ _ _ (hg.trans hgrown) hxy s' t' hlinked hrenamed (.refl _)
    exact ⟨hsecond.linked, hsecond.renamed, hgrown.trans hsecond.grown,
      hkeeps.trans hsecond.keeps, hsecond.result⟩
  | fault e e' => exact ⟨hlinked, hrenamed, hgrown, hkeeps, .fault e e'⟩
  | error e => exact ⟨hlinked, hrenamed, hgrown, hkeeps, .error e⟩
  | unreachable he => exact ⟨hlinked, hrenamed, hgrown, hkeeps, .unreachable he⟩

theorem bind_equal {a b : BindM FrameTable α} {f' : α → BindM FrameTable δ}
    (h : Renames ρ scope g a b Equal) (hnext : ∀ x, Renames ρ scope g (f x) (f' x) R') :
    Renames ρ scope g (a >>= f) (b >>= f') R' := by
  refine .bind h ?_
  rintro _ x g' hgrow rfl
  exact (hnext x).later hgrow

theorem throw (fault : Fault) :
    Renames ρ scope g (throw (.fault fault) : BindM FrameTable α)
      (throw (.fault fault) : BindM FrameTable β) R :=
  fun _ _ hs hr _ => ⟨hs, hr, .refl _, .refl _ _, .fault fault fault⟩

theorem fail (problem : BindProblem) (span : Span) (notes : List Note) :
    Renames ρ scope g (BindM.fail problem span notes : BindM FrameTable α)
      (BindM.fail problem span notes : BindM FrameTable β) R := by
  intro s t hs hr _
  refine ⟨hs, hr, .refl _, .refl _ _, ?_⟩
  change Corresponds _ (.error (.error ⟨problem, span, placeOf s.world.files span, notes⟩))
    (.error (.error ⟨problem, span, placeOf t.world.files span, notes⟩))
  rw [hr.files]
  exact .error _

theorem fail_unreachable {problem problem' : BindProblem} (h : problem.isReachable = false)
    (span : Span) : Renames ρ scope g (BindM.fail problem span : BindM FrameTable α)
      (BindM.fail problem' span : BindM FrameTable β) R :=
  fun _ _ hs hr _ => ⟨hs, hr, .refl _, .refl _ _, .unreachable h⟩

theorem askEither {p : Universe FrameTable → Except Fault α}
    {q : Universe FrameTable → Except Fault β}
    (h : ∀ u v, u.Linked → u.Renamed ρ v → g.Extends u.graph →
      (∃ x y, p u = .ok x ∧ q v = .ok y ∧ R u.graph x y) ∨
        ∃ e e', p u = .error e ∧ q v = .error e') :
    Renames ρ scope g (BindM.ask p) (BindM.ask q) R := by
  intro s t hs hr hg
  rw [← bind_pure (BindM.ask p), ← bind_pure (BindM.ask q), exec_ask_bind, exec_ask_bind]
  obtain ⟨x, y, hx, hy, hxy⟩ | ⟨e, e', he, he'⟩ := h s.world t.world hs hr hg
  · rw [hx, hy]
    exact ⟨hs, hr, .refl _, .refl _ _, .ok hxy⟩
  · rw [he, he']
    exact ⟨hs, hr, .refl _, .refl _ _, .fault e e'⟩

private theorem ask {p : Universe FrameTable → Except Fault α}
    {q : Universe FrameTable → Except Fault β}
    (h : ∀ u v, u.Linked → u.Renamed ρ v → g.Extends u.graph →
      ∃ x y, p u = .ok x ∧ q v = .ok y ∧ R u.graph x y) :
    Renames ρ scope g (BindM.ask p) (BindM.ask q) R :=
  .askEither fun u v hu hr hg => .inl (h u v hu hr hg)

theorem askTypes (p : TypeStore → Except Fault α) :
    Renames ρ scope g (BindM.ask fun u => p u.types) (BindM.ask fun u => p u.types) Equal := by
  intro s t hs hr _
  rw [← bind_pure (BindM.ask _), exec_ask_bind, exec_ask_bind, hr.types]
  cases p s.world.types with
  | ok x => exact ⟨hs, hr, .refl _, .refl _ _, .ok rfl⟩
  | error e => exact ⟨hs, hr, .refl _, .refl _ _, .fault e e⟩

theorem describe (id : TyId) :
    Renames ρ scope g (BindM.describe id) (BindM.describe id) Equal := .askTypes (·.get id)

theorem typeText (id : TyId) :
    Renames ρ scope g (BindM.typeText id) (BindM.typeText id) Equal := .askTypes (·.format id)

theorem typeOf (hid : g.Issued id) :
    Renames ρ scope g (BindM.typeOf id) (BindM.typeOf (ρ id)) Equal := by
  refine .ask fun u v hu hr hg => ?_
  obtain ⟨last, node, hwalk, hlast, -⟩ := Graph.referent_total hu.ordered (hg.issued hid)
  have htype := Graph.typeOf_eq_ownType hu.ordered hwalk hlast
  exact ⟨_, _, htype, (hr.graph.typeOf hu.ordered (hg.issued hid)).trans htype, rfl⟩

theorem isConstant (hid : g.Issued id) :
    Renames ρ scope g (BindM.isConstant id) (BindM.isConstant (ρ id)) Equal := by
  refine .ask fun u v hu hr hg => ?_
  obtain ⟨b, hb⟩ := Graph.isConstant_total hu.ordered (hg.issued hid)
  exact ⟨b, b, hb, (hr.graph.isConstant hu.ordered (hg.issued hid)).trans hb, rfl⟩

theorem getNode (hid : g.Issued id) :
    Renames ρ scope g (BindM.ask fun u => u.graph.get id) (BindM.ask fun u => u.graph.get (ρ id))
      fun _ _ _ => True := by
  refine .ask fun u v hu hr hg => ?_
  obtain ⟨node, hnode⟩ := hg.issued hid
  have hget := (Arena.get_eq_ok_iff u.graph id node).mpr hnode
  exact ⟨_, _, hget, hr.graph.get hget, trivial⟩

theorem primitive (p : Primitive) :
    Renames ρ scope g (BindM.primitive p) (BindM.primitive p) Equal := by
  intro s t hs hr _
  refine ⟨hs, hr, .refl _, .refl _ _, .ok ?_⟩
  change t.world.types.primitive p = s.world.types.primitive p
  rw [hr.types]

private theorem intern (request : TypeStore → Except Fault TyId × TypeStore) :
    Renames ρ scope g (BindM.intern request) (BindM.intern request) Equal := by
  intro s t hs hr _
  rw [exec_intern, exec_intern, hr.types]
  refine ⟨⟨hs.ordered, hs.names⟩, ⟨hr.graph, rfl, hr.scopes, hr.files, hr.builtinFile⟩,
    .refl _, .refl _ _, ?_⟩
  dsimp only
  cases (request s.world.types).1 with
  | ok id => exact .ok rfl
  | error e => exact .fault e e

theorem wrap (w : Wrapper) (elem : TyId) :
    Renames ρ scope g (BindM.wrap w elem) (BindM.wrap w elem) Equal := .intern _

theorem procedureType (params : List TyId) (result : TyId) :
    Renames ρ scope g (BindM.procedureType params result) (BindM.procedureType params result)
      Equal := .intern _

theorem make (shape : Shape) (hkind : shape.kind ∉ [.invalid, .unlisted])
    (hedges : ∀ e ∈ shape.edges, g.Issued e) :
    Renames ρ scope g (BindM.make span shape) (BindM.make span (shape.rename ρ))
      (SameNode ρ) := by
  intro s t hs hr hg
  have hgrow := Arena.insert_extends s.world.graph ⟨span, shape⟩
  have hordered : Graph.Ordered (s.world.graph.insert ⟨span, shape⟩).2 := by
    refine hs.ordered.insert (fun e he => hg.issued (hedges e he)) ?_ ?_
    · rintro rfl
      simp [Shape.kind] at hkind
    · rintro rfl
      simp [Shape.kind] at hkind
  refine ⟨⟨hordered, fun hframe hentry => hgrow.issued (hs.names hframe hentry)⟩,
    ⟨hr.graph.insert ⟨span, shape⟩, hr.types, hr.scopes, hr.files, hr.builtinFile⟩,
    hgrow, .refl _ _, .ok ⟨⟨_, Arena.get?_insert_self _ _⟩, ?_⟩⟩
  exact hr.graph.insert_fst ⟨span, shape⟩ ⟨span, shape.rename ρ⟩

theorem visible? (name : Bytes) (here : ScopeId) :
    Renames ρ scope g (BindM.visible? here name) (BindM.visible? here name) (SameNode? ρ) := by
  intro s t hs hr _
  refine ⟨hs, hr, .refl _, .refl _ _, .ok ⟨?_, ?_⟩⟩
  · intro id hid
    obtain ⟨frame, hframe, hentry⟩ := FrameTable.mem_of_lookup hid
    exact hs.names hframe hentry
  · change t.world.scopes.lookup here name = (s.world.scopes.lookup here name).map ρ
    rw [hr.scopes, FrameTable.lookup_rename]

theorem declare (name : Bytes) (hid : g.Issued id) :
    Renames ρ scope g (BindM.declare scope name id) (BindM.declare scope name (ρ id)) Equal := by
  intro s t hs hr hg
  refine ⟨⟨hs.ordered, ?_⟩, ⟨hr.graph, hr.types, ?_, hr.files, hr.builtinFile⟩, .refl _,
    (FrameTable.Keeps.refl scope _).insert name id, .ok rfl⟩
  · intro frame entry hframe hentry
    obtain rfl | ⟨old, hold, hentry⟩ := FrameTable.mem_insert hframe hentry
    · exact hg.issued hid
    · exact hs.names hold hentry
  · change t.world.scopes.insert scope name (ρ id) =
      (s.world.scopes.insert scope name id).rename ρ
    rw [hr.scopes, FrameTable.insert_rename]

theorem traced (name : Bytes) (h : Renames ρ scope g a b R) :
    Renames ρ scope g (BindM.traced name a) (BindM.traced name b) R := by
  intro s t hs hr hg
  obtain ⟨s', hs', hresult, hafter⟩ := exec_traced name a s
  obtain ⟨t', ht', hresult', hafter'⟩ := exec_traced name b t
  obtain ⟨hlinked, hrenamed, hgrown, hkeeps, hend⟩ :=
    h s' t' (hs' ▸ hs) (hs' ▸ ht' ▸ hr) (hs' ▸ hg)
  refine ⟨hafter ▸ hlinked, hafter ▸ hafter' ▸ hrenamed, ?_, ?_, ?_⟩
  · rw [hafter, ← hs']
    exact hgrown
  · rw [hafter, ← hs']
    exact hkeeps
  · rw [hafter, hresult, hresult']
    exact hend

theorem openScope {f : ScopeId → BindM FrameTable γ} {f' : ScopeId → BindM FrameTable δ}
    (outer : ScopeId) (h : ∀ inner, Renames ρ inner g (f inner) (f' inner) R') :
    Renames ρ scope g (BindM.openScope outer >>= f) (BindM.openScope outer >>= f') R' := by
  intro s t hs hr hg
  have hrun {ε : Type} (k : ScopeId → BindM FrameTable ε) (s : BindState FrameTable) :
      exec (BindM.openScope outer >>= k) s = exec (k (s.world.scopes.child outer).1)
        { s with world.scopes := (s.world.scopes.child outer).2 } := rfl
  have hchild : t.world.scopes.child outer =
      ((s.world.scopes.child outer).1, (s.world.scopes.child outer).2.rename ρ) := by
    rw [hr.scopes, FrameTable.child_rename]
  rw [hrun, hrun, hchild]
  obtain ⟨hlinked, hrenamed, hgrown, hkeeps, hresult⟩ :=
    h (s.world.scopes.child outer).1
      { s with world.scopes := (s.world.scopes.child outer).2 }
      { t with world.scopes := (s.world.scopes.child outer).2.rename ρ }
      ⟨hs.ordered, fun hframe hentry => by
        obtain ⟨old, hold, hentry⟩ := FrameTable.mem_child hframe hentry
        exact hs.names hold hentry⟩
      ⟨hr.graph, hr.types, rfl, hr.files, hr.builtinFile⟩ hg
  exact ⟨hlinked, hrenamed, hgrown, hkeeps.outer, hresult⟩

theorem openScope_bind {a : ScopeId → BindM FrameTable α} {b : ScopeId → BindM FrameTable β}
    (outer : ScopeId) (h : ∀ inner, Renames ρ inner g (a inner) (b inner) R)
    (hnext : ∀ x y g', g.Extends g' → R g' x y → Renames ρ scope g' (f x) (f' y) R') :
    Renames ρ scope g (BindM.openScope outer >>= fun inner => a inner >>= f)
      (BindM.openScope outer >>= fun inner => b inner >>= f') R' := by
  rw [← bind_assoc, ← bind_assoc]
  exact .bind (.openScope outer h) hnext

end Renames

end BindM

end Keywordless
