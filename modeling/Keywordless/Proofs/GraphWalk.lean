import Keywordless.Graph.Query
import Keywordless.Proofs.Arena
import Keywordless.Proofs.Outcome

/-!
# Walks in the bound graph

Where edges lead to older nodes, every question about a node has an answer, and the answer on the
type of a node stays when the graph grows.
-/

namespace Keywordless

namespace Graph

/-- Edges lead to older nodes, and every node is of a known kind. -/
structure Ordered (g : Graph) : Prop where
  older : ∀ {id node}, g.get? id = some node →
    ∀ e ∈ node.shape.edges, g.Issued e ∧ e.index < id.index
  valid : ∀ {id node}, g.get? id = some node → node.shape ≠ .invalid
  listed : ∀ {id node}, g.get? id = some node → node.shape ≠ .unlisted

theorem Ordered.insert {g : Graph} (h : g.Ordered) {node : Node}
    (hedges : ∀ e ∈ node.shape.edges, g.Issued e) (hvalid : node.shape ≠ .invalid)
    (hlisted : node.shape ≠ .unlisted) : Ordered (g.insert node).2 := by
  refine ⟨?_, ?_, ?_⟩
  · intro id found hf e he
    obtain ⟨rfl, rfl⟩ | hf := Arena.get?_insert_cases hf
    · have hissued := hedges e he
      exact ⟨(Arena.insert_extends g found).issued hissued, Arena.issued_lt_insert hissued found⟩
    · obtain ⟨hissued, hlt⟩ := h.older hf e he
      exact ⟨(Arena.insert_extends g node).issued hissued, hlt⟩
  · intro id found hf
    obtain ⟨rfl, rfl⟩ | hf := Arena.get?_insert_cases hf
    · exact hvalid
    · exact h.valid hf
  · intro id found hf
    obtain ⟨rfl, rfl⟩ | hf := Arena.get?_insert_cases hf
    · exact hlisted
    · exact h.listed hf

private theorem referentWithin_total {g : Graph} (h : g.Ordered) {steps : Nat} {id : NodeId}
    (hid : g.Issued id) (hsteps : id.index < steps) :
    ∃ last node, g.referentWithin steps id = .ok (last, node) ∧ g.get? last = some node ∧
      ∀ target, node.shape ≠ .name target := by
  induction steps generalizing id with
  | zero => omega
  | succ steps ih =>
    obtain ⟨node, hnode⟩ := hid
    have hget := (Arena.get_eq_ok_iff g id node).mpr hnode
    by_cases hname : ∃ target, node.shape = .name target
    · obtain ⟨target, htarget⟩ := hname
      obtain ⟨hissued, hlt⟩ := h.older hnode target (by simp [htarget, Shape.edges])
      obtain ⟨last, found, hwalk, hlast⟩ := ih hissued (by omega)
      refine ⟨last, found, ?_, hlast⟩
      simp [referentWithin, hget, htarget, hwalk, bind, Except.bind]
    · have hother : ∀ target, node.shape ≠ .name target := fun target ht => hname ⟨target, ht⟩
      refine ⟨id, node, ?_, hnode, hother⟩
      rw [referentWithin, hget]
      cases hshape : node.shape with
      | name target => exact absurd hshape (hother target)
      | _ => simp [hshape, bind, Except.bind, pure, Except.pure]

theorem referent_total {g : Graph} (h : g.Ordered) {id : NodeId} (hid : g.Issued id) :
    ∃ last node, g.referent id = .ok (last, node) ∧ g.get? last = some node ∧
      ∀ target, node.shape ≠ .name target :=
  referentWithin_total h hid (Nat.lt_succ_self _)

private theorem referentWithin_kept {g g' : Graph} (h : g.Extends g') {steps : Nat} {id : NodeId}
    {found : NodeId × Node} (hwalk : g.referentWithin steps id = .ok found) :
    g'.referentWithin steps id = .ok found := by
  induction steps generalizing id with
  | zero => cases hwalk
  | succ steps ih =>
    rw [referentWithin] at hwalk ⊢
    obtain ⟨node, hnode, hwalk⟩ := Outcome.bind_eq_ok.mp hwalk
    have hkept := h.kept ((Arena.get_eq_ok_iff g id node).mp hnode)
    refine Outcome.bind_eq_ok.mpr ⟨node, (Arena.get_eq_ok_iff g' id node).mpr hkept, ?_⟩
    cases hshape : node.shape with
    | name target =>
      simp only [hshape] at hwalk ⊢
      exact ih hwalk
    | _ => simpa only [hshape] using hwalk

theorem typeOf_kept {g g' : Graph} (h : g.Extends g') {id : NodeId} {type : TyId}
    (htype : g.typeOf id = .ok type) : g'.typeOf id = .ok type := by
  obtain ⟨found, hfound, htype⟩ := Outcome.bind_eq_ok.mp htype
  exact Outcome.bind_eq_ok.mpr ⟨found, referentWithin_kept h hfound, htype⟩

/-- A node has the own type of the node that it stands for. -/
theorem typeOf_eq_ownType {g : Graph} (h : g.Ordered) {id last : NodeId} {node : Node}
    (hwalk : g.referent id = .ok (last, node)) (hlast : g.get? last = some node) :
    g.typeOf id = .ok node.shape.ownType := by
  refine Outcome.bind_eq_ok.mpr ⟨(last, node), hwalk, ?_⟩
  have hvalid := h.valid hlast
  cases hshape : node.shape with
  | invalid => exact absurd hshape hvalid
  | _ => simp [hshape, pure, Except.pure]

theorem typeOf_declaration {g : Graph} {id : NodeId} {span : Span} {name : Bytes} {type : TyId}
    {init : Option NodeId} (hid : g.get? id = some ⟨span, .declaration name type init⟩) :
    g.typeOf id = .ok type := by
  have hwalk : g.referent id = .ok (id, ⟨span, .declaration name type init⟩) :=
    Outcome.bind_eq_ok.mpr ⟨_, (Arena.get_eq_ok_iff g id _).mpr hid, rfl⟩
  exact Outcome.bind_eq_ok.mpr ⟨_, hwalk, rfl⟩

private theorem allHold_total {test : NodeId → Except Fault Bool} {ids : List NodeId}
    (h : ∀ id ∈ ids, ∃ b, test id = .ok b) : ∃ b, allHold test ids = .ok b := by
  induction ids with
  | nil => exact ⟨true, rfl⟩
  | cons id rest ih =>
    obtain ⟨b, hb⟩ := h id List.mem_cons_self
    cases b with
    | false => exact ⟨false, by simp [allHold, hb, bind, Except.bind, pure, Except.pure]⟩
    | true =>
      obtain ⟨c, hc⟩ := ih fun id hid => h id (List.mem_cons_of_mem _ hid)
      exact ⟨c, by simp [allHold, hb, hc, bind, Except.bind]⟩

private theorem isConstantWithin_total {g : Graph} (h : g.Ordered) {steps : Nat} {id : NodeId}
    (hid : g.Issued id) (hsteps : id.index < steps) :
    ∃ b, g.isConstantWithin steps id = .ok b := by
  induction steps generalizing id with
  | zero => omega
  | succ steps ih =>
    obtain ⟨node, hnode⟩ := hid
    have hget := (Arena.get_eq_ok_iff g id node).mpr hnode
    have hedge (e : NodeId) (he : e ∈ node.shape.edges) :
        ∃ b, g.isConstantWithin steps e = .ok b := by
      obtain ⟨hissued, hlt⟩ := h.older hnode e he
      exact ih hissued (by omega)
    have hedges (ids : List NodeId) (hids : ∀ e ∈ ids, e ∈ node.shape.edges) :
        ∃ b, allHold (g.isConstantWithin steps) ids = .ok b :=
      allHold_total fun e he => hedge e (hids e he)
    have hvalid := h.valid hnode
    have hlisted := h.listed hnode
    simp only [isConstantWithin, hget, bind, Except.bind]
    cases hshape : node.shape with
    | invalid => exact absurd hshape hvalid
    | unlisted => exact absurd hshape hlisted
    | constant | typeLiteral | procedure => exact ⟨true, rfl⟩
    | declaration => exact ⟨false, rfl⟩
    | name target => exact hedge target (by simp [hshape, Shape.edges])
    | member operand _ _ => exact hedge operand (by simp [hshape, Shape.edges])
    | block exprs _ => exact hedges exprs (by simp [hshape, Shape.edges])
    | cast _ sources => exact hedges sources (by simp [hshape, Shape.edges])
    | call operand args _ =>
      obtain ⟨b, hb⟩ := hedge operand (by simp [hshape, Shape.edges])
      cases b with
      | false => exact ⟨false, by simp [hb, pure, Except.pure]⟩
      | true =>
        obtain ⟨c, hc⟩ := hedges args fun e he => by simp [hshape, Shape.edges, he]
        exact ⟨c, by simp [hb, hc]⟩

theorem isConstant_total {g : Graph} (h : g.Ordered) {id : NodeId} (hid : g.Issued id) :
    ∃ b, g.isConstant id = .ok b :=
  isConstantWithin_total h hid (Nat.lt_succ_self _)

theorem evaluate_eq_valueAt {g : Graph} {id last : NodeId} {node : Node}
    (hconstant : g.isConstant id = .ok true) (hwalk : g.referent id = .ok (last, node)) :
    g.evaluate id = valueAt last node := by
  simp [evaluate, hconstant, hwalk, bind, Except.bind]

theorem evaluate_constant {g : Graph} {id : NodeId} {span : Span} {name : Bytes} {type : TyId}
    {value : Value} (hid : g.get? id = some ⟨span, .constant name type value⟩) :
    g.evaluate id = .ok (.ok value) := by
  have hget := (Arena.get_eq_ok_iff g id _).mpr hid
  have hwalk : g.referent id = .ok (id, ⟨span, .constant name type value⟩) :=
    Outcome.bind_eq_ok.mpr ⟨_, hget, rfl⟩
  exact evaluate_eq_valueAt (Outcome.bind_eq_ok.mpr ⟨_, hget, rfl⟩) hwalk

/-- The end of a chain of names has a value or a reason why it has none. -/
theorem valueAt_total {g : Graph} (h : g.Ordered) {id : NodeId} {node : Node}
    (hid : g.get? id = some node) (hname : ∀ target, node.shape ≠ .name target) :
    ∃ outcome, valueAt id node = .ok outcome := by
  unfold valueAt
  cases hshape : node.shape with
  | invalid => exact absurd hshape (h.valid hid)
  | unlisted => exact absurd hshape (h.listed hid)
  | name target => exact absurd hshape (hname target)
  | _ => exact ⟨_, rfl⟩

theorem evaluate_total {g : Graph} (h : g.Ordered) {id : NodeId} (hid : g.Issued id)
    (hconstant : g.isConstant id = .ok true) : ∃ outcome, g.evaluate id = .ok outcome := by
  obtain ⟨last, node, hwalk, hlast, hname⟩ := referent_total h hid
  rw [evaluate_eq_valueAt hconstant hwalk]
  exact valueAt_total h hlast hname

end Graph

end Keywordless
