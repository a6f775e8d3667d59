import Keywordless.Proofs.BindYields
import Keywordless.Proofs.Ownership

/-!
# Open declarations

While a procedure is bound, its parameters and the declarations of its body belong to nobody yet:
they are open. Binding keeps account of them. Whatever it makes uses open declarations only, apart
from those that are owned below it, and so does whatever the names in scope denote. When the
procedure is made, it closes the ones that are its own.
-/

namespace Keywordless

def Span.Inside (inner outer : Span) : Prop :=
  inner.file = outer.file ∧ outer.start ≤ inner.start ∧ inner.stop ≤ outer.stop

private theorem Span.Inside.refl (s : Span) : s.Inside s := ⟨rfl, le_rfl, le_rfl⟩

theorem Span.Inside.trans {a b c : Span} (hab : a.Inside b) (hbc : b.Inside c) : a.Inside c :=
  ⟨hab.1.trans hbc.1, hbc.2.1.trans hab.2.1, hab.2.2.trans hbc.2.2⟩

/-- The open declarations. What belongs to a node shows in later graphs only, so the graph to look
at is a parameter. -/
abbrev Opened := Graph → NodeId → Prop

namespace Opened

def within (o : Opened) (ids : List NodeId) : Opened :=
  fun g d => o g d ∨ ∃ id ∈ ids, g.Within id d

def Under (g : Graph) (o o' : Opened) : Prop :=
  ∀ later : Graph, g.Extends later → ∀ d, later.IsDeclaration d → o later d → o' later d

variable {g g' : Graph} {o o' o'' : Opened} {ids ids' : List NodeId} {id : NodeId}

theorem Under.refl (g : Graph) (o : Opened) : Under g o o := fun _ _ _ _ h => h

private theorem Under.trans (h : Under g o o') (h' : Under g o' o'') : Under g o o'' :=
  fun later hgrow d hd ho => h' later hgrow d hd (h later hgrow d hd ho)

private theorem Under.later (h : Under g o o') (hgrow : g.Extends g') : Under g' o o' :=
  fun later hlater => h later (hgrow.trans hlater)

theorem under_within : Under g o (o.within ids) := fun _ _ _ _ h => .inl h

private theorem Under.within (h : Under g o o') : Under g (o.within ids) (o'.within ids) :=
  fun later hgrow d hd => Or.imp_left (h later hgrow d hd)

private theorem within_nil_under : Under g (o.within []) o := by
  intro later _ d _ h
  simpa [Opened.within] using h

private theorem within_under_append : Under g (o.within ids) (o.within (ids ++ ids')) := by
  intro later _ d _ h
  refine h.imp_right ?_
  rintro ⟨id, hid, hd⟩
  exact ⟨id, List.mem_append_left _ hid, hd⟩

theorem within_within_under : Under g ((o.within ids).within ids') (o.within (ids ++ ids')) := by
  intro later _ d _ h
  rcases h with (h | ⟨id, hid, hd⟩) | ⟨id, hid, hd⟩
  · exact .inl h
  · exact .inr ⟨id, List.mem_append_left _ hid, hd⟩
  · exact .inr ⟨id, List.mem_append_right _ hid, hd⟩

theorem within_leaf_under {node : Node} (hid : g.get? id = some node)
    (hleaf : node.shape.operands = []) (hkind : node.shape.kind ≠ .declaration) :
    Under g (o.within [id]) o := by
  intro later hgrow d hd h
  rcases h with h | ⟨x, hx, hin⟩
  · exact h
  · obtain rfl := List.mem_singleton.mp hx
    obtain rfl := hin.eq_of_leaf (hgrow.kept hid) hleaf
    obtain ⟨span, name, type, init, hdecl⟩ := hd
    have heq : node = ⟨span, .declaration name type init⟩ :=
      Option.some.inj ((hgrow.kept hid).symm.trans hdecl)
    exact absurd (by rw [heq]; rfl) hkind

private theorem within_operands_under {node : Node} (hid : g.get? id = some node)
    (hoperands : node.shape.operands = ids) : Under g (o.within ids) (o.within [id]) := by
  intro later hgrow d _ h
  refine h.imp_right ?_
  rintro ⟨x, hx, hin⟩
  exact ⟨id, List.mem_singleton_self id,
    Graph.HasOperand.within (hgrow.kept hid) (hoperands ▸ hx) hin⟩

end Opened

/-- Both the node and the procedure that is its value use open declarations only. -/
structure Graph.Accounted (g : Graph) (o : NodeId → Prop) (x : NodeId) : Prop where
  closed : g.Closed o x
  gives : ∀ q, g.Gives x q → g.Closed o q

/-- Other nodes than names, constants and procedures have no procedure as a value. -/
theorem Graph.Accounted.of_parts {g : Graph} {o : NodeId → Prop} {x : NodeId} {node : Node}
    (hx : g.get? x = some node) (hkind : node.shape.kind ∉ [.name, .constant, .procedure])
    (h : ∀ y ∈ node.shape.parts, g.Closed o y) : g.Accounted o x := by
  refine ⟨.of_parts hx ?_ h, ?_⟩
  · intro target htarget
    simp [htarget, Shape.kind] at hkind
  · intro q hq
    rcases hq.cases hx with ⟨hprocedure, -⟩ | ⟨name, type, hconstant⟩ | ⟨target, htarget, -⟩
    · simp [hprocedure] at hkind
    · simp [hconstant, Shape.kind] at hkind
    · simp [htarget, Shape.kind] at hkind

private theorem Graph.Accounted.mono {g : Graph} {o o' : NodeId → Prop} {x : NodeId}
    (h : g.Accounted o x) (himp : ∀ d, g.IsDeclaration d → o d → o' d) : g.Accounted o' x :=
  ⟨h.closed.mono himp, fun q hq => (h.gives q hq).mono himp⟩

namespace FrameTable

variable {t t' : FrameTable} {g g' : Graph} {o o' : Opened} {scope : ScopeId}

/-- The names that the scope sees denote nodes that use open declarations only, and if they denote
declarations, open ones. -/
structure Sees (g : Graph) (o : Opened) (t : FrameTable) (scope : ScopeId) : Prop where
  ordered : t.Ordered
  inside : scope < t.frames.size
  names : ∀ name id, t.lookup scope name = some id → ∀ later : Graph, g.Extends later →
    later.Accounted (o later) id ∧ (later.IsDeclaration id → o later id)

theorem Sees.mono (h : t.Sees g o scope) (hunder : Opened.Under g o o') : t.Sees g o' scope := by
  refine ⟨h.ordered, h.inside, ?_⟩
  intro name id hid later hgrow
  obtain ⟨haccounted, hdecl⟩ := h.names name id hid later hgrow
  exact ⟨haccounted.mono (hunder later hgrow), fun hd => hunder later hgrow id hd (hdecl hd)⟩

theorem Sees.later (h : t.Sees g o scope) (hgrow : g.Extends g') : t.Sees g' o scope := by
  refine ⟨h.ordered, h.inside, ?_⟩
  intro name id hid later hlater
  exact h.names name id hid later (hgrow.trans hlater)

theorem Sees.child (h : t.Sees g o scope) :
    (t.child scope).2.Sees g o (t.child scope).1 := by
  refine ⟨h.ordered.child h.inside, by simp [FrameTable.child], ?_⟩
  intro name id hid
  rw [lookup_child h.ordered h.inside] at hid
  exact h.names name id hid

theorem Sees.insert (h : t.Sees g o scope) {name : Bytes} {id : NodeId}
    (hid : ∀ later : Graph, g.Extends later →
      later.Accounted (o later) id ∧ (later.IsDeclaration id → o later id)) :
    (t.insert scope name id).Sees g o scope := by
  refine ⟨h.ordered.insert scope name id, by simpa [FrameTable.insert] using h.inside, ?_⟩
  intro other found hfound
  rw [lookup_insert h.ordered h.inside] at hfound
  split at hfound
  · obtain rfl := Option.some.inj hfound
    exact hid
  · exact h.names other found hfound

private theorem Sees.left (h : t.Sees g o scope) (hordered : t'.Ordered)
    (hkeeps : Keeps (t.child scope).1 (t.child scope).2 t') : t'.Sees g o scope := by
  have houter : Keeps scope t t' := hkeeps.outer
  refine ⟨hordered, h.inside.trans_le houter.size, ?_⟩
  intro name id hid
  have hsame : t'.lookup scope name = t.lookup scope name := by
    apply lookup_congr hordered h.ordered
    intro i hi
    exact hkeeps.left i (hi.trans_lt h.inside)
  exact h.names name id (hsame ▸ hid)

end FrameTable

/-- What binding did from the graph `g` and the scopes `t` on to make the nodes `ids`. Open are the
declarations in `o` and those that stand in the nodes. The nodes use open declarations only, apart
from what is owned below them. The procedures that were made lie in `room` and may also use what a
procedure around them owns. The scope sees names under `v`. -/
structure Accounts (room : Span) (o v : Opened) (scope : ScopeId) (g : Graph) (t : FrameTable)
    (ids : List NodeId) (g' : Graph) (t' : FrameTable) : Prop where
  keeps : FrameTable.Keeps scope t t'
  sees : t'.Sees g' v scope
  nodes : ∀ later : Graph, g'.Extends later → ∀ id ∈ ids, later.Accounted (o.within ids later) id
  procedures : ∀ p node, g'.get? p = some node → node.shape.kind = .procedure → g.get? p = none →
    node.span.Inside room ∧ ∀ later : Graph, g'.Extends later → later.Settled (o.within ids later) p

namespace Accounts

variable {room room' : Span} {o o' v v' : Opened} {scope : ScopeId} {g g' g'' : Graph}
  {t t' t'' : FrameTable} {ids ids' : List NodeId} {id : NodeId}

theorem none (h : t.Sees g v scope) : Accounts room o v scope g t [] g t where
  keeps := .refl scope t
  sees := h
  nodes := by simp
  procedures p node hp _ hnone := by
    rw [hnone] at hp
    cases hp

theorem widen (h : Accounts room o v scope g t ids g' t') (hroom : room.Inside room') :
    Accounts room' o v scope g t ids g' t' :=
  ⟨h.keeps, h.sees, h.nodes, fun p node hp hkind hnone =>
    ⟨(h.procedures p node hp hkind hnone).1.trans hroom,
      (h.procedures p node hp hkind hnone).2⟩⟩

theorem visible (h : Accounts room o v scope g t ids g' t') (hunder : Opened.Under g' v v') :
    Accounts room o v' scope g t ids g' t' :=
  ⟨h.keeps, h.sees.mono hunder, h.nodes, h.procedures⟩

theorem append (h : Accounts room o v scope g t ids g' t') (hgrow : g'.Extends g'')
    (h' : Accounts room o' v' scope g' t' ids' g'' t'')
    (hunder : Opened.Under g'' o' (o.within ids)) :
    Accounts room o v' scope g t (ids ++ ids') g'' t'' where
  keeps := h.keeps.trans h'.keeps
  sees := h'.sees
  nodes := by
    intro later hlater id hid
    rcases List.mem_append.mp hid with hid | hid
    · exact (h.nodes later (hgrow.trans hlater) id hid).mono
        (Opened.within_under_append later (hgrow.trans hlater))
    · exact (h'.nodes later hlater id hid).mono
        (hunder.within.trans Opened.within_within_under later hlater)
  procedures := by
    intro p node hp hkind hnone
    cases hold : g'.get? p with
    | some found =>
      obtain rfl : found = node := Option.some.inj ((hgrow.kept hold).symm.trans hp)
      obtain ⟨hroom, hsettled⟩ := h.procedures p found hold hkind hnone
      refine ⟨hroom, fun later hlater => ?_⟩
      exact (hsettled later (hgrow.trans hlater)).mono
        (Opened.within_under_append later (hgrow.trans hlater))
    | none =>
      obtain ⟨hroom, hsettled⟩ := h'.procedures p node hp hkind hold
      refine ⟨hroom, fun later hlater => ?_⟩
      exact (hsettled later hlater).mono
        (hunder.within.trans Opened.within_within_under later hlater)

/-- What was done in a new scope does not show in the scope above. -/
theorem left (h : Accounts room o v (t.child scope).1 g (t.child scope).2 ids g' t')
    (hsees : t.Sees g o scope) (hgrow : g.Extends g') :
    Accounts room o o scope g t ids g' t' where
  keeps := h.keeps.outer
  sees := (hsees.left h.sees.ordered h.keeps).later hgrow
  nodes := h.nodes
  procedures := h.procedures

theorem drop (h : Accounts room o v scope g t [id] g' t') {node : Node}
    (hid : g'.get? id = some node) (hleaf : node.shape.operands = [])
    (hkind : node.shape.kind ≠ .declaration) : Accounts room o v scope g t [] g' t' where
  keeps := h.keeps
  sees := h.sees
  nodes := by simp
  procedures := by
    intro p found hp hprocedure hnone
    obtain ⟨hroom, hsettled⟩ := h.procedures p found hp hprocedure hnone
    refine ⟨hroom, fun later hlater => (hsettled later hlater).mono ?_⟩
    exact (Opened.within_leaf_under hid hleaf hkind).trans Opened.under_within later hlater

section

variable {node : Node}

theorem apart (h : Accounts room o v scope g t ids g' t') (hkind : node.shape.kind ≠ .procedure) :
    Accounts room o v scope g t ids (g'.insert node).2 t' where
  keeps := h.keeps
  sees := h.sees.later (Arena.insert_extends g' node)
  nodes later hlater := h.nodes later ((Arena.insert_extends g' node).trans hlater)
  procedures := by
    intro p found hp hprocedure hnone
    obtain ⟨rfl, rfl⟩ | hold := Arena.get?_insert_cases hp
    · exact absurd hprocedure hkind
    · obtain ⟨hroom, hsettled⟩ := h.procedures p found hold hprocedure hnone
      refine ⟨hroom, fun later hlater => ?_⟩
      exact hsettled later ((Arena.insert_extends g' node).trans hlater)

private theorem made (h : Accounts room o v scope g t ids g' t')
    (hkind : node.shape.kind ≠ .procedure)
    (hunder : Opened.Under (g'.insert node).2 (o.within ids) (o.within [(g'.insert node).1]))
    (hmade : ∀ later : Graph, (g'.insert node).2.Extends later →
      later.Accounted (o.within [(g'.insert node).1] later) (g'.insert node).1) :
    Accounts room o v scope g t [(g'.insert node).1] (g'.insert node).2 t' where
  keeps := h.keeps
  sees := (h.apart hkind).sees
  nodes := by
    intro later hlater id hid
    obtain rfl := List.mem_singleton.mp hid
    exact hmade later hlater
  procedures := by
    intro p found hp hprocedure hnone
    obtain ⟨hroom, hsettled⟩ := (h.apart hkind).procedures p found hp hprocedure hnone
    exact ⟨hroom, fun later hlater => (hsettled later hlater).mono (hunder later hlater)⟩

theorem wrap (h : Accounts room o v scope g t ids g' t') (hv : Opened.Under g' v (o.within ids))
    (hoperands : node.shape.operands = ids)
    (hkind : node.shape.kind ∈ [.block, .declaration, .member, .call, .cast]) :
    Accounts room o (o.within [(g'.insert node).1]) scope g t [(g'.insert node).1]
      (g'.insert node).2 t' := by
  have hgrow := Arena.insert_extends g' node
  have hself := Arena.get?_insert_self g' node
  have hparts : node.shape.parts = ids := by
    rw [← hoperands]
    apply Shape.parts_eq_operands
    intro hother
    simp only [List.mem_cons, List.not_mem_nil, or_false] at hkind hother
    rcases hother with hother | hother <;> simp [hother] at hkind
  have hunder : Opened.Under (g'.insert node).2 (o.within ids) (o.within [(g'.insert node).1]) :=
    Opened.within_operands_under hself hoperands
  refine (h.made ?_ hunder ?_).visible ((hv.later hgrow).trans hunder)
  · intro hprocedure
    simp [hprocedure] at hkind
  · intro later hlater
    refine .of_parts (hlater.kept hself) ?_ ?_
    · intro hother
      simp only [List.mem_cons, List.not_mem_nil, or_false] at hkind hother
      rcases hother with hother | hother | hother <;> simp [hother] at hkind
    · intro y hy
      rw [hparts] at hy
      exact (h.nodes later (hgrow.trans hlater) y hy).closed.mono (hunder later hlater)

theorem leaf (h : Accounts room o v scope g t [] g' t') (node : Node)
    (hkind : node.shape.kind ≠ .procedure)
    (hmade : ∀ later : Graph, (g'.insert node).2.Extends later →
      later.Accounted (o later) (g'.insert node).1) :
    Accounts room o v scope g t [(g'.insert node).1] (g'.insert node).2 t' := by
  apply h.made hkind
  · exact Opened.within_nil_under.trans Opened.under_within
  · intro later hlater
    exact (hmade later hlater).mono (Opened.under_within later hlater)

/-- A procedure owns what stands in its parameters and in its body. -/
theorem procedure {params : List NodeId} {returns type : TyId} {body : NodeId}
    (h : Accounts room o v scope g t (params ++ [body]) g' t')
    (hnode : node = ⟨room, .procedure params returns type body⟩) :
    Accounts room o v scope g t [(g'.insert node).1] (g'.insert node).2 t' := by
  have hgrow := Arena.insert_extends g' node
  have hself := Arena.get?_insert_self g' node
  let made := (g'.insert node).1
  have howns (later : Graph) (hlater : (g'.insert node).2.Extends later) (d : NodeId)
      (hd : o.within (params ++ [body]) later d) : o later d ∨ later.Owns made d := by
    rcases hd with hd | hd
    · exact .inl hd
    · exact .inr ⟨room, params, returns, type, body, hnode ▸ hlater.kept hself, hd⟩
  have hclosed (later : Graph) (hlater : (g'.insert node).2.Extends later) :
      later.Closed (o later) made := by
    refine .of_procedure (hnode ▸ hlater.kept hself) ?_
    intro y hy
    exact (h.nodes later (hgrow.trans hlater) y hy).closed.mono fun d _ => howns later hlater d
  refine ⟨h.keeps, h.sees.later hgrow, ?_, ?_⟩
  · intro later hlater id hid
    obtain rfl := List.mem_singleton.mp hid
    refine Graph.Accounted.mono ⟨hclosed later hlater, ?_⟩ (Opened.under_within later hlater)
    intro q hq
    rcases hq.cases (hlater.kept hself) with ⟨-, rfl⟩ | ⟨_, _, hconstant⟩ | ⟨_, hname, -⟩
    · exact hclosed later hlater
    · simp [hnode] at hconstant
    · simp [hnode] at hname
  · intro p found hp hprocedure hnone
    obtain ⟨rfl, rfl⟩ | hold := Arena.get?_insert_cases hp
    · refine ⟨by rw [hnode]; exact .refl room, fun later hlater => ?_⟩
      exact ((hclosed later hlater).mono (Opened.under_within later hlater)).settled
    · obtain ⟨hroom, hsettled⟩ := h.procedures p found hold hprocedure hnone
      refine ⟨hroom, fun later hlater => ?_⟩
      have hlater' := hgrow.trans hlater
      have hencloses : later.Encloses made p := by
        refine ⟨?_, node, found, hlater.kept hself, hlater'.kept hold, ?_⟩
        · rintro rfl
          exact Arena.insert_not_issued g' node ⟨found, hold⟩
        · rw [hnode]
          exact ⟨hroom.1.symm, hroom.2⟩
      have hopen := (hsettled later hlater').mono fun d _ => howns later hlater d
      exact (hopen.enclosed hencloses).mono (Opened.under_within later hlater)

end

theorem declare (h : Accounts room o (o.within [id]) scope g t [id] g' t') (name : Bytes) :
    Accounts room o (o.within [id]) scope g t [id] g' (t'.insert scope name id) where
  keeps := h.keeps.insert name id
  sees := by
    refine h.sees.insert fun later hlater => ?_
    exact ⟨h.nodes later hlater id (List.mem_singleton_self id),
      fun _ => .inr ⟨id, List.mem_singleton_self id, .refl⟩⟩
  nodes := h.nodes
  procedures := h.procedures

end Accounts

end Keywordless
