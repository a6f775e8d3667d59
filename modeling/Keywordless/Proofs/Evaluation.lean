import Keywordless.Proofs.Session

/-!
# Values of constant nodes

In every universe that binding reaches, the value of a constant node belongs to the type of the
node. A constant node cannot be evaluated exactly when its chain of names ends at a block, a member,
a call or a cast.
-/

namespace Keywordless

namespace Graph

/-- Names lead from a node to `last`, which is no name. -/
inductive EndsAt (g : Graph) (last : NodeId) (node : Node) : NodeId → Prop
  | here (found : g.get? last = some node) (other : ∀ target, node.shape ≠ .name target) :
      EndsAt g last node last
  | through {id target : NodeId} {span : Span} (found : g.get? id = some ⟨span, .name target⟩)
      (rest : EndsAt g last node target) : EndsAt g last node id

variable {g : Graph} {id last last' : NodeId} {node node' : Node}

private theorem referentWithin_endsAt {steps : Nat}
    (h : g.referentWithin steps id = .ok (last, node)) : g.EndsAt last node id := by
  induction steps generalizing id with
  | zero => cases h
  | succ steps ih =>
    rw [referentWithin] at h
    obtain ⟨⟨span, shape⟩, hget, h⟩ := Outcome.bind_eq_ok.mp h
    have hfound := (Arena.get_eq_ok_iff g id _).mp hget
    cases shape with
    | name target => exact .through hfound (ih h)
    | _ =>
      cases h
      exact .here hfound (by simp)

private theorem referent_endsAt (h : g.referent id = .ok (last, node)) : g.EndsAt last node id :=
  referentWithin_endsAt h

private theorem EndsAt.get?_eq (h : g.EndsAt last node id) : g.get? last = some node := by
  induction h with
  | here hfound => exact hfound
  | through _ _ ih => exact ih

private theorem EndsAt.eq_of_endsAt (h : g.EndsAt last node id) (h' : g.EndsAt last' node' id) :
    last = last' ∧ node = node' := by
  induction h with
  | here hfound hother =>
    cases h' with
    | here hfound' => exact ⟨rfl, Option.some.inj (hfound.symm.trans hfound')⟩
    | through hfound' =>
      obtain rfl := Option.some.inj (hfound.symm.trans hfound')
      exact absurd rfl (hother _)
  | through hfound hrest ih =>
    cases h' with
    | here hfound' hother =>
      obtain rfl := Option.some.inj (hfound.symm.trans hfound')
      exact absurd rfl (hother _)
    | through hfound' hrest' =>
      cases Option.some.inj (hfound.symm.trans hfound')
      exact ih hrest'

/-- The end of a chain of names is as constant as its start. -/
private theorem EndsAt.isConstantWithin (h : g.EndsAt last node id) {steps : Nat}
    (hconstant : g.isConstantWithin steps id = .ok true) :
    ∃ left, g.isConstantWithin left last = .ok true := by
  induction h generalizing steps with
  | here => exact ⟨steps, hconstant⟩
  | through hfound _ ih =>
    cases steps with
    | zero => cases hconstant
    | succ steps =>
      rw [Graph.isConstantWithin, (Arena.get_eq_ok_iff g _ _).mpr hfound] at hconstant
      exact ih hconstant

private theorem EndsAt.kind_ne_declaration (h : g.EndsAt last node id)
    (hconstant : g.isConstant id = .ok true) : node.shape.kind ≠ .declaration := by
  intro hkind
  obtain ⟨_ | left, hleft⟩ := h.isConstantWithin hconstant
  · cases hleft
  · obtain ⟨span, shape⟩ := node
    cases shape with
    | declaration =>
      rw [Graph.isConstantWithin, (Arena.get_eq_ok_iff g _ _).mpr h.get?_eq] at hleft
      cases hleft
    | _ => cases hkind

/-- The kinds of nodes that may be constant and have no value all the same. -/
def unevaluated : List NodeKind := [.block, .member, .call, .cast]

private theorem valueAt_error_iff {outcome : Except Unsupported Value}
    (h : valueAt last node = .ok outcome) (hkind : node.shape.kind ≠ .declaration) :
    (∃ reason, outcome = .error reason) ↔ node.shape.kind ∈ unevaluated := by
  obtain ⟨span, shape⟩ := node
  cases shape with
  | invalid | unlisted | name => cases h
  | declaration => exact absurd rfl hkind
  | _ =>
    cases h
    simp [Shape.kind, unevaluated]

private theorem isConstant_issued (h : g.isConstant id = .ok true) : g.Issued id := by
  obtain ⟨node, hget, -⟩ := Outcome.bind_eq_ok.mp h
  exact ⟨node, (Arena.get_eq_ok_iff g id node).mp hget⟩

end Graph

/-- What it means for a value to be one of a type: the values of `type` are the types of the store,
those of the integer types are the numbers that fit, and those of a procedure type are the
procedures with that type. No other type has values at compile time. -/
def Value.BelongsTo (g : Graph) (types : TypeStore) (type : TyId) (value : Value) : Prop :=
  match types.get? type, value with
  | some (.primitive .type), .type id => types.Issued id
  | some (.primitive .int), .int n => n ≤ 2 ^ 63 - 1
  | some (.primitive .uint), .int n => n ≤ 2 ^ 64 - 1
  | some (.primitive .u8), .int n => n ≤ 255
  | some (.procedure _ _), .procedure id => ∃ span params returns body,
      g.get? id = some ⟨span, .procedure params returns type body⟩
  | _, _ => False

namespace Universe.Sound

variable {roots : List NodeId} {u : Universe FrameTable} {type : TyId} {value : Value}

private theorem belongsTo (h : u.Sound roots) (hvalue : value.Inhabits u.graph u.types type) :
    value.BelongsTo u.graph u.types type := by
  cases value with
  | invalid => exact hvalue.elim
  | type id =>
    obtain ⟨rfl, hid⟩ := hvalue
    simpa [Value.BelongsTo, h.types.get?_primitive] using hid
  | int n =>
    obtain ⟨p, hinteger, rfl, hn⟩ := hvalue
    cases p with
    | type | void => cases hinteger
    | int | uint | u8 =>
      simpa [Value.BelongsTo, h.types.get?_primitive, Primitive.largest] using hn
  | procedure id =>
    obtain ⟨span, params, returns, body, hid⟩ := hvalue
    obtain ⟨signature, hsignature, -⟩ := h.typed hid
    simp only [Value.BelongsTo, hsignature]
    exact ⟨span, params, returns, body, hid⟩

end Universe.Sound

/-- In every universe that a session reaches, a constant node has a type and an outcome of its
evaluation. A value belongs to that type, and there is none exactly when the chain of names from the
node ends at a node of a kind that cannot be evaluated. The value that a constant node holds belongs
to its type as well, so that binding one more file never finds that something of the type `type` is
no type. -/
theorem Session.run_evaluates (files : FileSet) (calls : List BindCall) :
    let u := (Session.run files calls).world
    (∀ id, u.graph.isConstant id = .ok true → ∃ type outcome,
      u.graph.typeOf id = .ok type ∧ u.graph.evaluate id = .ok outcome ∧
      (∀ value, outcome = .ok value → value.BelongsTo u.graph u.types type) ∧
      ((∃ reason, outcome = .error reason) ↔
        ∃ last node, u.graph.EndsAt last node id ∧ node.shape.kind ∈ Graph.unevaluated)) ∧
    (∀ id span name type value, u.graph.get? id = some ⟨span, .constant name type value⟩ →
      value.BelongsTo u.graph u.types type) ∧
    (∀ (call : BindCall) (e : BindError) (use : TypeUse) (value : Value),
      (call.file.bind.exec ⟨{ u with files := call.files }, call.log, call.parent⟩).1 =
        .error (.error e) → e.problem ≠ .notATypeValue use value) := by
  intro u
  have h : u.Sound (Session.run files calls).roots := (Session.run_sound files calls).world
  refine ⟨?_, fun id span name type value hid => h.belongsTo (h.typed hid), ?_⟩
  · intro id hconstant
    have hid := Graph.isConstant_issued hconstant
    obtain ⟨type, htype, -⟩ := h.typeOf hid
    obtain ⟨last, node, hwalk, -⟩ := Graph.referent_total h.ordered hid
    have hend := Graph.referent_endsAt hwalk
    obtain ⟨outcome, houtcome, hvalue⟩ := h.evaluate hid hconstant htype
    refine ⟨type, outcome, htype, houtcome, fun value hv => h.belongsTo (hvalue value hv), ?_⟩
    rw [Graph.evaluate_eq_valueAt hconstant hwalk] at houtcome
    rw [Graph.valueAt_error_iff houtcome (hend.kind_ne_declaration hconstant)]
    refine ⟨fun hkind => ⟨last, node, hend, hkind⟩, ?_⟩
    rintro ⟨last', node', hend', hkind⟩
    obtain ⟨-, rfl⟩ := hend.eq_of_endsAt hend'
    exact hkind
  · intro call e use value hfailed hproblem
    let start : BindState FrameTable := ⟨{ u with files := call.files }, call.log, call.parent⟩
    have hstart : start.world.Sound (Session.run files calls).roots := h.withFiles call.files
    obtain ⟨-, hended⟩ := call.file.bind_ended hstart False.elim
    rw [hfailed] at hended
    cases hended with
    | failed _ _ hreachable =>
      simp [BindFailure.isReachable, hproblem, BindProblem.isReachable] at hreachable

end Keywordless
