import Keywordless.Binding.Universe
import Keywordless.Proofs.Acyclic

/-!
# Renaming nodes

Two graphs may hold the same nodes under different handles. A renaming takes the handles of the one
to those of the other. It acts on everything that refers to nodes, and what can be asked of a node
has the same answer on both sides.
-/

namespace Keywordless

abbrev Renaming := NodeId → NodeId

variable {ρ : Renaming}

/-! ### What refers to nodes -/

def Value.rename (ρ : Renaming) : Value → Value
  | .procedure id => .procedure (ρ id)
  | value => value

def Shape.rename (ρ : Renaming) : Shape → Shape
  | .block exprs type => .block (exprs.map ρ) type
  | .constant label type value => .constant label type (value.rename ρ)
  | .declaration label type init => .declaration label type (init.map ρ)
  | .name target => .name (ρ target)
  | .member operand index type => .member (ρ operand) index type
  | .call operand args type => .call (ρ operand) (args.map ρ) type
  | .cast type sources => .cast type (sources.map ρ)
  | .procedure params returns type body => .procedure (params.map ρ) returns type (ρ body)
  | shape => shape

def Node.rename (ρ : Renaming) (node : Node) : Node := ⟨node.span, node.shape.rename ρ⟩

def Names.rename (ρ : Renaming) (names : Names) : Names := names.map (Prod.map id ρ)

def Frame.rename (ρ : Renaming) (frame : Frame) : Frame :=
  { frame with names := frame.names.rename ρ }

def FrameTable.rename (ρ : Renaming) (t : FrameTable) : FrameTable := ⟨t.frames.map (·.rename ρ)⟩

theorem Shape.rename_eq_self {shape : Shape} (h : ∀ e ∈ shape.edges, ρ e = e) :
    shape.rename ρ = shape := by
  have hlist (ids : List NodeId) (hids : ∀ e ∈ ids, ρ e = e) : ids.map ρ = ids :=
    (List.map_congr_left hids).trans (List.map_id ids)
  cases shape with
  | block exprs type => rw [rename, hlist exprs h]
  | cast type sources => rw [rename, hlist sources h]
  | name target => rw [rename, h target (by simp [edges])]
  | member operand index type => rw [rename, h operand (by simp [edges])]
  | constant name type value =>
    cases value with
    | procedure id => rw [rename, Value.rename, h id (by simp [edges])]
    | _ => rfl
  | declaration name type init =>
    cases init with
    | none => rfl
    | some id => rw [rename, Option.map_some, h id (by simp [edges])]
  | call operand args type =>
    rw [rename, h operand (by simp [edges]), hlist _ fun e he => h e (by simp [edges, he])]
  | procedure params returns type body =>
    rw [rename, h body (by simp [edges]), hlist _ fun e he => h e (by simp [edges, he])]
  | invalid | typeLiteral | unlisted => rfl

private theorem Names.rename_eq_self {names : Names} (h : ∀ entry ∈ names, ρ entry.2 = entry.2) :
    names.rename ρ = names := by
  refine (List.map_congr_left ?_).trans (List.map_id names)
  intro entry hentry
  exact Prod.ext rfl (h entry hentry)

private theorem Names.lookup_rename (names : Names) (name : Bytes) :
    (names.rename ρ).lookup name = (names.lookup name).map ρ := by
  induction names with
  | nil => rfl
  | cons entry rest ih =>
    obtain ⟨n, id⟩ := entry
    simp only [Names.rename, List.map_cons, Prod.map, id_eq, List.lookup_cons]
    split
    · rfl
    · exact ih

private theorem Names.bind_rename (names : Names) (name : Bytes) (id : NodeId) :
    (names.bind name id).rename ρ = (names.rename ρ).bind name (ρ id) := by
  induction names with
  | nil => rfl
  | cons entry rest ih =>
    obtain ⟨n, old⟩ := entry
    simp only [Names.bind, Names.rename, List.map_cons, Prod.map, id_eq]
    split
    · rfl
    · exact congrArg _ ih

namespace FrameTable

theorem rename_eq_self {t : FrameTable}
    (h : ∀ frame ∈ t.frames, ∀ entry ∈ frame.names, ρ entry.2 = entry.2) : t.rename ρ = t := by
  have hframes : t.frames.map (·.rename ρ) = t.frames := by
    refine (Array.map_congr_left ?_).trans (Array.map_id t.frames)
    intro frame hframe
    rw [Frame.rename, Names.rename_eq_self (h frame hframe)]
    rfl
  rw [rename, hframes]

theorem child_rename (t : FrameTable) (scope : ScopeId) :
    (t.rename ρ).child scope = ((t.child scope).1, (t.child scope).2.rename ρ) := by
  simp [child, rename, Frame.rename, Names.rename]

theorem insert_rename (t : FrameTable) (scope : ScopeId) (name : Bytes) (id : NodeId) :
    (t.rename ρ).insert scope name (ρ id) = (t.insert scope name id).rename ρ := by
  simp only [insert, rename, FrameTable.mk.injEq]
  apply Array.ext_getElem?
  intro i
  simp only [Array.getElem?_modify, Array.getElem?_map]
  split
  · cases t.frames[i]? with
    | none => rfl
    | some frame => simp [Frame.rename, Names.bind_rename]
  · rfl

theorem lookup_rename (t : FrameTable) (scope : ScopeId) (name : Bytes) :
    (t.rename ρ).lookup scope name = (t.lookup scope name).map ρ := by
  have hwithin (steps : Nat) (scope : ScopeId) :
      (t.rename ρ).lookupWithin name steps scope = (t.lookupWithin name steps scope).map ρ := by
    induction steps generalizing scope with
    | zero => rfl
    | succ steps ih =>
      simp only [lookupWithin, rename, Array.getElem?_map]
      cases t.frames[scope]? with
      | none => rfl
      | some frame =>
        simp only [Option.map_some, Option.bind_eq_bind, Option.bind_some, Frame.rename,
          Names.lookup_rename]
        cases frame.names.lookup name with
        | some id => rfl
        | none =>
          cases frame.parent with
          | none => rfl
          | some parent => exact ih parent
  exact hwithin (scope + 1) scope

end FrameTable

/-! ### The same graph under other handles -/

namespace Graph

variable {g h : Graph} {id last : NodeId} {node : Node}

/-- The nodes of `g` are nodes of `h` under other handles. Handles do not get smaller, and those
that `g` issues next become the ones that `h` issues next. -/
structure Renamed (ρ : Renaming) (g h : Graph) : Prop where
  nodes : ∀ {id node}, g.get? id = some node → h.get? (ρ id) = some (node.rename ρ)
  later : ∀ id, id.index ≤ (ρ id).index
  fresh : ∀ n, ρ ⟨g.tag, g.size + n + 1⟩ = ⟨h.tag, h.size + n + 1⟩

theorem Renamed.insert_fst (hr : g.Renamed ρ h) (node node' : Node) :
    (h.insert node').1 = ρ (g.insert node).1 :=
  (hr.fresh 0).symm

theorem Renamed.insert (hr : g.Renamed ρ h) (node : Node) :
    Renamed ρ (g.insert node).2 (h.insert (node.rename ρ)).2 := by
  refine ⟨?_, hr.later, ?_⟩
  · intro id found hfound
    obtain ⟨rfl, rfl⟩ | hold := Arena.get?_insert_cases hfound
    · rw [← hr.insert_fst found (found.rename ρ)]
      exact Arena.get?_insert_self h _
    · exact (Arena.insert_extends h _).kept (hr.nodes hold)
  · intro n
    have hfresh := hr.fresh (n + 1)
    simp only [Arena.insert, Arena.size, Array.size_push] at hfresh ⊢
    rw [show g.items.size + 1 + n + 1 = g.items.size + (n + 1) + 1 by omega, hfresh]
    congr 1
    omega

theorem Renamed.get (hr : g.Renamed ρ h) (hid : g.get id = .ok node) :
    h.get (ρ id) = .ok (node.rename ρ) :=
  (Arena.get_eq_ok_iff h _ _).mpr (hr.nodes ((Arena.get_eq_ok_iff g id node).mp hid))

private theorem allHold_renamed {test test' : NodeId → Except Fault Bool} {ids : List NodeId}
    {b : Bool} (hsame : ∀ id b, test id = .ok b → test' (ρ id) = .ok b)
    (hall : allHold test ids = .ok b) : allHold test' (ids.map ρ) = .ok b := by
  induction ids with
  | nil => exact hall
  | cons id rest ih =>
    obtain ⟨first, hfirst, hrest⟩ := Outcome.bind_eq_ok.mp hall
    refine Outcome.bind_eq_ok.mpr ⟨first, hsame id first hfirst, ?_⟩
    cases first with
    | false => exact hrest
    | true => exact ih hrest

private theorem Renamed.isConstantWithin (hr : g.Renamed ρ h) {steps : Nat} {b : Bool}
    (hwalk : g.isConstantWithin steps id = .ok b) :
    h.isConstantWithin steps (ρ id) = .ok b := by
  induction steps generalizing id b with
  | zero => cases hwalk
  | succ steps ih =>
    have hsame (e : NodeId) (c : Bool) (he : g.isConstantWithin steps e = .ok c) :
        h.isConstantWithin steps (ρ e) = .ok c := ih he
    obtain ⟨⟨span, shape⟩, hnode, hwalk⟩ := Outcome.bind_eq_ok.mp hwalk
    refine Outcome.bind_eq_ok.mpr ⟨_, hr.get hnode, ?_⟩
    cases shape with
    | name target => exact hsame _ _ hwalk
    | member operand _ _ => exact hsame _ _ hwalk
    | block exprs _ => exact allHold_renamed hsame hwalk
    | cast _ sources => exact allHold_renamed hsame hwalk
    | call operand args _ =>
      obtain ⟨first, hfirst, hrest⟩ := Outcome.bind_eq_ok.mp hwalk
      refine Outcome.bind_eq_ok.mpr ⟨first, hsame _ _ hfirst, ?_⟩
      cases first with
      | false => exact hrest
      | true => exact allHold_renamed hsame hrest
    | invalid | unlisted => cases hwalk
    | _ => exact hwalk

private theorem Renamed.referentWithin (hr : g.Renamed ρ h) {steps : Nat}
    (hwalk : g.referentWithin steps id = .ok (last, node)) :
    h.referentWithin steps (ρ id) = .ok (ρ last, node.rename ρ) := by
  induction steps generalizing id with
  | zero => cases hwalk
  | succ steps ih =>
    obtain ⟨⟨span, shape⟩, hnode, hwalk⟩ := Outcome.bind_eq_ok.mp hwalk
    refine Outcome.bind_eq_ok.mpr ⟨_, hr.get hnode, ?_⟩
    cases shape with
    | name target => exact ih hwalk
    | _ =>
      obtain ⟨rfl, rfl⟩ := Prod.mk.inj (Except.ok.inj hwalk)
      rfl

/-! Where edges lead to older nodes, every walk ends on both sides. -/

theorem Renamed.isConstant (hr : g.Renamed ρ h) (ho : g.Ordered) (hid : g.Issued id) :
    h.isConstant (ρ id) = g.isConstant id := by
  obtain ⟨b, hb⟩ := isConstant_total ho hid
  have hmore : id.index + 1 ≤ (ρ id).index + 1 := Nat.succ_le_succ (hr.later id)
  rw [hb]
  exact isConstantWithin_more hmore (hr.isConstantWithin hb)

private theorem Renamed.referent (hr : g.Renamed ρ h) (hwalk : g.referent id = .ok (last, node)) :
    h.referent (ρ id) = .ok (ρ last, node.rename ρ) :=
  referentWithin_more (Nat.succ_le_succ (hr.later id)) (hr.referentWithin hwalk)

theorem Renamed.typeOf (hr : g.Renamed ρ h) (ho : g.Ordered) (hid : g.Issued id) :
    h.typeOf (ρ id) = g.typeOf id := by
  obtain ⟨last, node, hwalk, hlast, -⟩ := referent_total ho hid
  rw [typeOf_eq_ownType ho hwalk hlast]
  refine Outcome.bind_eq_ok.mpr ⟨_, hr.referent hwalk, ?_⟩
  have hvalid := ho.valid hlast
  obtain ⟨span, shape⟩ := node
  cases shape with
  | invalid => exact absurd rfl hvalid
  | _ => rfl

private theorem valueAt_rename {outcome : Except Unsupported Value}
    (hvalue : valueAt last node = .ok outcome) :
    valueAt (ρ last) (node.rename ρ) = .ok (outcome.map (Value.rename ρ)) := by
  obtain ⟨span, shape⟩ := node
  cases shape with
  | invalid | unlisted | name => cases hvalue
  | _ =>
    cases hvalue
    rfl

/-- The value of a node has the same form on both sides, and if it is a procedure, it was issued. -/
theorem Renamed.evaluate (hr : g.Renamed ρ h) (ho : g.Ordered) (hid : g.Issued id)
    (hconstant : g.isConstant id = .ok true) :
    ∃ outcome, g.evaluate id = .ok outcome ∧
      h.evaluate (ρ id) = .ok (outcome.map (Value.rename ρ)) ∧
      ∀ q, outcome = .ok (.procedure q) → g.Issued q := by
  obtain ⟨last, node, hwalk, hlast, hname⟩ := referent_total ho hid
  obtain ⟨outcome, houtcome⟩ := valueAt_total ho hlast hname
  refine ⟨outcome, ?_, ?_, ?_⟩
  · rw [evaluate_eq_valueAt hconstant hwalk, houtcome]
  · rw [evaluate_eq_valueAt ((hr.isConstant ho hid).trans hconstant) (hr.referent hwalk)]
    exact valueAt_rename houtcome
  · rintro q rfl
    obtain ⟨span, shape⟩ := node
    cases shape with
    | constant name type value =>
      obtain rfl : value = .procedure q := Except.ok.inj (Except.ok.inj houtcome)
      exact (ho.older hlast q (by simp [Shape.edges])).1
    | procedure params returns type body =>
      obtain rfl : last = q := by simpa [valueAt, pure, Except.pure] using houtcome
      exact ⟨_, hlast⟩
    | _ => simp [valueAt, pure, Except.pure] at houtcome

end Graph

end Keywordless
