import Keywordless.Proofs.FromText

/-!
# No cycles in the bound graph

Edges lead to older nodes in every universe that binding reaches. A walk along edges therefore ends
within the steps that the position of its first node allows, and with more steps it would give the
same answer.
-/

namespace Keywordless

namespace Graph

variable {g : Graph} {id e : NodeId}

def Points (g : Graph) (id e : NodeId) : Prop :=
  ∃ node, g.get? id = some node ∧ e ∈ node.shape.edges

/-- Every way along edges leads to an older node. -/
theorem Ordered.index_lt (h : g.Ordered) (hway : Relation.TransGen g.Points id e) :
    e.index < id.index := by
  induction hway with
  | single hedge =>
    obtain ⟨node, hnode, hmem⟩ := hedge
    exact (h.older hnode _ hmem).2
  | tail _ hedge ih =>
    obtain ⟨node, hnode, hmem⟩ := hedge
    exact (h.older hnode _ hmem).2.trans ih

private theorem allHold_kept {test test' : NodeId → Except Fault Bool} {ids : List NodeId}
    {b : Bool} (hkept : ∀ id b, test id = .ok b → test' id = .ok b)
    (h : allHold test ids = .ok b) : allHold test' ids = .ok b := by
  induction ids with
  | nil => exact h
  | cons id rest ih =>
    obtain ⟨first, hfirst, hrest⟩ := Outcome.bind_eq_ok.mp h
    refine Outcome.bind_eq_ok.mpr ⟨first, hkept id first hfirst, ?_⟩
    cases first with
    | false => exact hrest
    | true => exact ih hrest

/-- More steps keep an answer. -/
theorem isConstantWithin_more {steps more : Nat} {b : Bool} (hmore : steps ≤ more)
    (h : g.isConstantWithin steps id = .ok b) : g.isConstantWithin more id = .ok b := by
  induction steps generalizing id more b with
  | zero => cases h
  | succ steps ih =>
    obtain ⟨more, rfl⟩ : ∃ left, more = left + 1 := ⟨more - 1, by omega⟩
    have hkept (e : NodeId) (c : Bool) (he : g.isConstantWithin steps e = .ok c) :
        g.isConstantWithin more e = .ok c := ih (by omega) he
    obtain ⟨node, hnode, h⟩ := Outcome.bind_eq_ok.mp h
    refine Outcome.bind_eq_ok.mpr ⟨node, hnode, ?_⟩
    cases hshape : node.shape with
    | name target | member operand _ _ =>
      simp only [hshape] at h ⊢
      exact hkept _ _ h
    | block exprs _ | cast _ sources =>
      simp only [hshape] at h ⊢
      exact allHold_kept hkept h
    | call operand args _ =>
      simp only [hshape] at h ⊢
      obtain ⟨first, hfirst, hrest⟩ := Outcome.bind_eq_ok.mp h
      refine Outcome.bind_eq_ok.mpr ⟨first, hkept _ _ hfirst, ?_⟩
      cases first with
      | false => exact hrest
      | true => exact allHold_kept hkept hrest
    | _ => simpa only [hshape] using h

theorem referentWithin_more {steps more : Nat} {found : NodeId × Node} (hmore : steps ≤ more)
    (h : g.referentWithin steps id = .ok found) : g.referentWithin more id = .ok found := by
  induction steps generalizing id more with
  | zero => cases h
  | succ steps ih =>
    obtain ⟨more, rfl⟩ : ∃ left, more = left + 1 := ⟨more - 1, by omega⟩
    obtain ⟨node, hnode, h⟩ := Outcome.bind_eq_ok.mp h
    refine Outcome.bind_eq_ok.mpr ⟨node, hnode, ?_⟩
    cases hshape : node.shape with
    | name target =>
      simp only [hshape] at h ⊢
      exact ih (by omega) h
    | _ => simpa only [hshape] using h

end Graph

private theorem DumpView.dumpWithin_more {v : DumpView} {steps more : Nat} {id : NodeId} {d : Dump}
    (hmore : steps ≤ more) (h : v.dumpWithin steps id = .ok d) : v.dumpWithin more id = .ok d := by
  induction steps generalizing id more d with
  | zero => cases h
  | succ steps ih =>
    obtain ⟨more, rfl⟩ : ∃ left, more = left + 1 := ⟨more - 1, by omega⟩
    obtain ⟨⟨head, children⟩, hdescribe, h⟩ := Outcome.bind_eq_ok.mp h
    obtain ⟨below, hbelow, h⟩ := Outcome.bind_eq_ok.mp h
    have hkept : children.mapM (v.dumpWithin more) = .ok below :=
      Outcome.mapM_eq_ok.mpr ((Outcome.mapM_eq_ok.mp hbelow).imp fun _ _ hd => ih (by omega) hd)
    exact Outcome.bind_eq_ok.mpr ⟨_, hdescribe, Outcome.bind_eq_ok.mpr ⟨below, hkept, h⟩⟩

/-- In every universe that a session reaches, whatever trees were bound in it and whether or not
they could be bound, edges lead to nodes that were issued before, so that there is no cycle, and
the names of the root scope denote issued nodes. From each node, the walks that ask for its
constancy, its type and its value and the walk that dumps it come to an end: each has an answer
which no larger number of steps changes. -/
theorem Session.run_acyclic (files : FileSet) (calls : List BindCall) :
    let u := (run files calls).world
    (∀ id node, u.graph.get? id = some node →
      ∀ e ∈ node.shape.edges, u.graph.Issued e ∧ e.index < id.index) ∧
    (∀ id, ¬ Relation.TransGen u.graph.Points id id) ∧
    (∀ name id, u.lookup name = some id → u.graph.Issued id) ∧
    ∀ id, u.graph.Issued id →
      (∃ constant, u.graph.isConstant id = .ok constant ∧
        ∀ steps > id.index, u.graph.isConstantWithin steps id = .ok constant) ∧
      (∃ last node, u.graph.referent id = .ok (last, node) ∧
        (∀ steps > id.index, u.graph.referentWithin steps id = .ok (last, node)) ∧
        u.graph.typeOf id = .ok node.shape.ownType ∧
        ∃ outcome, Graph.valueAt last node = .ok outcome ∧
          (u.graph.isConstant id = .ok true → u.graph.evaluate id = .ok outcome)) ∧
      ∀ v : DumpView, u.ShownBy v →
        ∃ d, v.dump id = .ok d ∧ ∀ steps > id.index, v.dumpWithin steps id = .ok d := by
  intro u
  have h := (run_sound files calls).world
  refine ⟨fun _ _ => h.ordered.older, fun id hway => (h.ordered.index_lt hway).false,
    fun name id hname => (h.lookup hname).issued, fun id hid => ⟨?_, ?_, ?_⟩⟩
  · obtain ⟨constant, hconstant⟩ := Graph.isConstant_total h.ordered hid
    exact ⟨constant, hconstant, fun _ hsteps => Graph.isConstantWithin_more hsteps hconstant⟩
  · obtain ⟨last, node, hwalk, hlast, hname⟩ := Graph.referent_total h.ordered hid
    obtain ⟨outcome, houtcome⟩ := Graph.valueAt_total h.ordered hlast hname
    refine ⟨last, node, hwalk, fun _ hsteps => Graph.referentWithin_more hsteps hwalk,
      Graph.typeOf_eq_ownType h.ordered hwalk hlast, outcome, houtcome, fun hconstant => ?_⟩
    rw [Graph.evaluate_eq_valueAt hconstant hwalk, houtcome]
  · intro v hv
    obtain ⟨d, hd⟩ := h.dumpWithin_total hv hid (Nat.lt_succ_self _)
    exact ⟨d, hd, fun _ hsteps => DumpView.dumpWithin_more hsteps hd⟩

end Keywordless
