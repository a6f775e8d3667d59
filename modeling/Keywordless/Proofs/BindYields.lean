import Keywordless.Proofs.BindRun

/-!
# Runs of binding that succeed

What an action does to the graph and to the scopes when it succeeds. Each basic action has one rule;
actions that only ask or that only enter types leave both alone.
-/

namespace Keywordless

namespace BindM

variable {α β : Type}

/-- The action leaves the graph and the scopes as they are. -/
def Still (action : BindM FrameTable α) : Prop :=
  ∀ s, (exec action s).2.world.graph = s.world.graph ∧
    (exec action s).2.world.scopes = s.world.scopes

/-- If the action succeeds, from the graph `g` and the scopes `t`, then the graph grows and the
result meets `post` there. -/
def Yields (g : Graph) (t : FrameTable) (action : BindM FrameTable α)
    (post : α → Graph → FrameTable → Prop) : Prop :=
  ∀ s, s.world.graph = g → s.world.scopes = t → ∀ a s', exec action s = (.ok a, s') →
    g.Extends s'.world.graph ∧ post a s'.world.graph s'.world.scopes

namespace Still

variable {action : BindM FrameTable α} {next : α → BindM FrameTable β}

protected theorem pure (a : α) : Still (pure a) := fun _ => ⟨rfl, rfl⟩

theorem throw (e : BindFailure) : Still (throw e : BindM FrameTable α) := fun _ => ⟨rfl, rfl⟩

theorem fail (problem : BindProblem) (span : Span) (notes : List Note) :
    Still (BindM.fail problem span notes : BindM FrameTable α) :=
  fun _ => ⟨rfl, rfl⟩

protected theorem bind (h : Still action) (hnext : ∀ a, Still (next a)) :
    Still (action >>= next) := by
  intro s
  obtain ⟨hgraph, hscopes⟩ := h s
  rw [exec_bind]
  rcases hrun : exec action s with ⟨_ | a, s'⟩
  · rw [hrun] at hgraph hscopes
    exact ⟨hgraph, hscopes⟩
  · rw [hrun] at hgraph hscopes
    obtain ⟨hgraph', hscopes'⟩ := hnext a s'
    exact ⟨hgraph'.trans hgraph, hscopes'.trans hscopes⟩

theorem ask (answer : Universe FrameTable → Except Fault α) : Still (BindM.ask answer) := by
  intro s
  rw [← bind_pure (BindM.ask answer), exec_ask_bind]
  cases answer s.world <;> exact ⟨rfl, rfl⟩

private theorem intern (request : TypeStore → Except Fault TyId × TypeStore) :
    Still (BindM.intern request) := by
  intro s
  rw [exec_intern]
  exact ⟨rfl, rfl⟩

theorem primitive (p : Primitive) : Still (BindM.primitive p) := fun _ => ⟨rfl, rfl⟩

theorem typeOf (id : NodeId) : Still (BindM.typeOf id) := ask _

theorem describe (id : TyId) : Still (BindM.describe id) := ask _

theorem typeText (id : TyId) : Still (BindM.typeText id) := ask _

theorem wrap (w : Wrapper) (elem : TyId) : Still (BindM.wrap w elem) := intern _

theorem procedureType (params : List TyId) (result : TyId) :
    Still (BindM.procedureType params result) := intern _

end Still

namespace Yields

variable {g : Graph} {t : FrameTable} {action : BindM FrameTable α} {next : α → BindM FrameTable β}
  {mid : α → Graph → FrameTable → Prop} {post : β → Graph → FrameTable → Prop}

protected theorem pure {a : α} (h : mid a g t) : Yields g t (pure a) mid := by
  rintro s rfl rfl _ _ hrun
  obtain ⟨ha, rfl⟩ := Prod.mk.inj hrun
  obtain rfl := Except.ok.inj ha
  exact ⟨.refl _, h⟩

theorem throw (e : BindFailure) : Yields g t (throw e : BindM FrameTable α) mid := by
  intro s _ _ a s' hrun
  cases hrun

theorem fail (problem : BindProblem) (span : Span) (notes : List Note) :
    Yields g t (BindM.fail problem span notes) mid := by
  intro s _ _ a s' hrun
  cases hrun

theorem fail_bind (problem : BindProblem) (span : Span) (notes : List Note) :
    Yields g t (BindM.fail problem span notes >>= next) post := by
  intro s _ _ a s' hrun
  cases hrun

theorem imp {mid' : α → Graph → FrameTable → Prop} (h : Yields g t action mid)
    (himp : ∀ a g' t', g.Extends g' → mid a g' t' → mid' a g' t') : Yields g t action mid' := by
  intro s hg ht a s' hrun
  obtain ⟨hgrow, hmid⟩ := h s hg ht a s' hrun
  exact ⟨hgrow, himp a _ _ hgrow hmid⟩

protected theorem bind (h : Yields g t action mid)
    (hnext : ∀ a g' t', g.Extends g' → mid a g' t' → Yields g' t' (next a) post) :
    Yields g t (action >>= next) post := by
  intro s hg ht b s'' hrun
  rw [exec_bind] at hrun
  rcases hfirst : exec action s with ⟨_ | a, s'⟩
  · rw [hfirst] at hrun
    cases hrun
  · rw [hfirst] at hrun
    obtain ⟨hgrow, hmid⟩ := h s hg ht a s' hfirst
    obtain ⟨hgrow', hpost⟩ := hnext a _ _ hgrow hmid s' rfl rfl b s'' hrun
    exact ⟨hgrow.trans hgrow', hpost⟩

theorem still_bind (h : Still action) (hnext : ∀ a, Yields g t (next a) post) :
    Yields g t (action >>= next) post := by
  intro s hg ht b s'' hrun
  obtain ⟨hgraph, hscopes⟩ := h s
  rw [exec_bind] at hrun
  rcases hfirst : exec action s with ⟨_ | a, s'⟩
  · rw [hfirst] at hrun
    cases hrun
  · rw [hfirst] at hrun hgraph hscopes
    exact hnext a s' (hgraph.trans hg) (hscopes.trans ht) b s'' hrun

/-- A question about the graph, and what its answer says. -/
theorem askGraph_bind (answer : Graph → Except Fault α)
    (hnext : ∀ a, answer g = .ok a → Yields g t (next a) post) :
    Yields g t (BindM.ask (fun u => answer u.graph) >>= next) post := by
  rintro s rfl ht b s' hrun
  rw [exec_ask_bind] at hrun
  cases hanswer : answer s.world.graph with
  | error e => simp [hanswer] at hrun
  | ok a =>
    rw [hanswer] at hrun
    exact hnext a hanswer s rfl ht b s' hrun

theorem traced {name : Bytes} (h : Yields g t action mid) :
    Yields g t (BindM.traced name action) mid := by
  intro s hg ht a s' hrun
  obtain ⟨start, hstart, hresult, hworld⟩ := exec_traced name action s
  rcases hinner : exec action start with ⟨r, last⟩
  rw [hrun, hinner] at hresult hworld
  obtain rfl : r = .ok a := hresult.symm
  rw [show s'.world = last.world from hworld]
  exact h start (hstart ▸ hg) (hstart ▸ ht) a last hinner

theorem visible?_bind {scope : ScopeId} {name : Bytes} {next : Option NodeId → BindM FrameTable β}
    (hnext : Yields g t (next (t.lookup scope name)) post) :
    Yields g t (BindM.visible? scope name >>= next) post := by
  rintro s hg rfl b s' hrun
  exact hnext s hg rfl b s' hrun

theorem make {span : Span} {shape : Shape} {post : NodeId → Graph → FrameTable → Prop}
    (h : post (g.insert ⟨span, shape⟩).1 (g.insert ⟨span, shape⟩).2 t) :
    Yields g t (BindM.make span shape) post := by
  rintro s rfl rfl id s' hrun
  obtain ⟨hid, rfl⟩ := Prod.mk.inj hrun
  obtain rfl := Except.ok.inj hid
  exact ⟨Arena.insert_extends _ _, h⟩

theorem make_bind {span : Span} {shape : Shape} {next : NodeId → BindM FrameTable β}
    (hnext : Yields (g.insert ⟨span, shape⟩).2 t (next (g.insert ⟨span, shape⟩).1) post) :
    Yields g t (BindM.make span shape >>= next) post := by
  rintro s rfl rfl b s' hrun
  let made := s.world.graph.insert ⟨span, shape⟩
  obtain ⟨hgrow, hpost⟩ := hnext { s with world.graph := made.2 } rfl rfl b s' hrun
  exact ⟨(Arena.insert_extends _ _).trans hgrow, hpost⟩

theorem openScope_bind {scope : ScopeId} {next : ScopeId → BindM FrameTable β}
    (hnext : Yields g (t.child scope).2 (next (t.child scope).1) post) :
    Yields g t (BindM.openScope scope >>= next) post := by
  rintro s hg rfl b s' hrun
  exact hnext { s with world.scopes := (s.world.scopes.child scope).2 } hg rfl b s' hrun

theorem declare_bind {scope : ScopeId} {name : Bytes} {id : NodeId}
    {next : Unit → BindM FrameTable β}
    (hnext : Yields g (t.insert scope name id) (next ()) post) :
    Yields g t (BindM.declare scope name id >>= next) post := by
  rintro s hg rfl b s' hrun
  exact hnext { s with world.scopes := s.world.scopes.insert scope name id } hg rfl b s' hrun

end Yields

end BindM

end Keywordless
