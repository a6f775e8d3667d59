import Keywordless.Proofs.RenamedRuns

/-!
# Binding does not depend on handles

Binding a tree makes the same nodes in two universes that differ in handles only. There is one
statement for each step of binding, from which the statement for expressions and items follows by
recursion over the tree.
-/

namespace Keywordless

open BindM (Renames Equal SameNode SameNodes SameNode?)

/-- The part becomes the same node under another handle. -/
def Part.Renames (ρ : Renaming) (p : Part FrameTable) : Prop :=
  ∀ scope hint g, BindM.Renames ρ scope g (p.bind scope hint) (p.bind scope hint) (SameNode ρ)

/-- The values are the same. A procedure is known by its handle. -/
def Value.SameAs (ρ : Renaming) (g : Graph) (v v' : Value) : Prop :=
  (∀ q, v = .procedure q → g.Issued q) ∧ v' = v.rename ρ

namespace Binder

variable {ρ : Renaming} {scope here : ScopeId} {g : Graph} {hint : Hint} {h : ExprHead}
  {p type value body : Part FrameTable} {list : List (Part FrameTable)} {id : NodeId} {span : Span}
  {use : TypeUse}

private theorem evaluate_renames (hid : g.Issued id) :
    Renames ρ scope g (evaluate id span) (evaluate (ρ id) span) (Value.SameAs ρ) := by
  have hanswer : Renames ρ scope g (BindM.ask fun u => u.graph.evaluate id)
      (BindM.ask fun u => u.graph.evaluate (ρ id)) fun g outcome outcome' =>
        outcome' = outcome.map (Value.rename ρ) ∧
          ∀ q, outcome = .ok (.procedure q) → g.Issued q := by
    refine .askEither fun u v hu hr hg => ?_
    obtain ⟨b, hb⟩ := Graph.isConstant_total hu.ordered (hg.issued hid)
    have hb' := (hr.graph.isConstant hu.ordered (hg.issued hid)).trans hb
    cases b with
    | true =>
      obtain ⟨outcome, hfirst, hsecond, hissued⟩ :=
        hr.graph.evaluate hu.ordered (hg.issued hid) hb
      exact .inl ⟨_, _, hfirst, hsecond, rfl, hissued⟩
    | false =>
      refine .inr ⟨.notConstant id.index, .notConstant (ρ id).index, ?_, ?_⟩
      · simp [Graph.evaluate, hb, bind, Except.bind]
      · simp [Graph.evaluate, hb', bind, Except.bind]
  refine .bind hanswer ?_
  rintro outcome _ g' hgrow ⟨rfl, hissued⟩
  cases outcome with
  | ok value =>
    refine .pure fun g'' hgrow' => ⟨?_, rfl⟩
    rintro q rfl
    exact hgrow'.issued (hissued q rfl)
  | error reason => exact .fail _ _ _

private theorem requireConstant_renames {problem : BindProblem} (hid : g.Issued id) :
    Renames ρ scope g (requireConstant id problem span) (requireConstant (ρ id) problem span)
      Equal := by
  refine .bind_equal (.isConstant hid) fun constant => ?_
  cases constant with
  | true => exact .pure_equal ()
  | false => exact .fail _ _ _

private theorem requireTypeOfTypes_renames {type : TyId} :
    Renames ρ scope g (requireTypeOfTypes type span use) (requireTypeOfTypes type span use)
      Equal := by
  refine .bind_equal (.describe type) fun t => ?_
  split
  · exact .pure_equal ()
  · exact .bind_equal (.typeText type) fun _ => .fail _ _ _

/-- If the value is no type, the problems name different handles. That cannot happen in a universe
that follows the typing rules. -/
theorem typeValue_renames (hid : g.Issued id) :
    Renames ρ scope g (typeValue id span use) (typeValue (ρ id) span use) Equal := by
  refine .bind_equal (requireConstant_renames hid) fun _ => ?_
  refine .bind_equal (.typeOf hid) fun type => ?_
  refine .bind_equal requireTypeOfTypes_renames fun _ => ?_
  refine .bind (evaluate_renames hid) ?_
  rintro value _ g' _ ⟨-, rfl⟩
  cases value with
  | type denoted => exact .pure_equal denoted
  | _ => exact .fail_unreachable rfl _

private theorem typeDenoted_renames (hp : p.Renames ρ) :
    Renames ρ scope g (typeDenoted p here use) (typeDenoted p here use) Equal := by
  refine .openScope here fun inner => .bind_equal (.primitive .type) fun type => ?_
  refine .bind (hp inner (some type) g) ?_
  rintro id _ g' _ ⟨hid, rfl⟩
  exact typeValue_renames hid

private theorem ascription_renames (htype : type.Renames ρ) :
    Renames ρ scope g (ascription h type here) (ascription h type here) Equal := by
  unfold ascription
  split
  · exact .pure_equal none
  · exact .bind_equal (typeDenoted_renames htype) fun denoted => .pure_equal (some denoted)

private theorem blockEntries_renames (hlist : ∀ p ∈ list, p.Renames ρ) :
    Renames ρ scope g (blockEntries list scope hint) (blockEntries list scope hint)
      (SameNodes ρ) := by
  induction list generalizing g with
  | nil => exact .pure_nodes (by simp)
  | cons p rest ih =>
    have hp := hlist p List.mem_cons_self
    cases rest with
    | nil =>
      refine .bind (hp scope hint g) ?_
      rintro id _ g' _ ⟨hid, rfl⟩
      exact .pure_nodes (by simpa using hid)
    | cons q rest =>
      refine .bind (hp scope none g) ?_
      rintro id _ g' _ ⟨hid, rfl⟩
      refine .bind (ih fun p hp => hlist p (List.mem_cons_of_mem _ hp)) ?_
      rintro ids _ g'' hgrow ⟨hids, rfl⟩
      exact .pure_nodes (List.forall_mem_cons.mpr ⟨hgrow.issued hid, hids⟩)

private theorem hintedPrimitive_renames {primitive : Primitive} :
    Renames ρ scope g (hintedPrimitive primitive hint) (hintedPrimitive primitive hint) Equal := by
  cases hint with
  | none => exact .primitive primitive
  | some id =>
    refine .bind_equal (.describe id) fun t => ?_
    split
    · exact .pure_equal id
    · exact .primitive primitive

private theorem blockType_renames {ids : List NodeId} (hids : ∀ id ∈ ids, g.Issued id) :
    Renames ρ scope g (blockType ids hint) (blockType (ids.map ρ) hint) Equal := by
  unfold blockType
  rw [List.getLast?_map]
  cases hlast : ids.getLast? with
  | some last => exact .typeOf (hids last (List.mem_of_getLast? hlast))
  | none => exact hintedPrimitive_renames

private theorem block_renames (hlist : ∀ p ∈ list, p.Renames ρ) :
    Renames ρ scope g (block h list here hint) (block h list here hint) (SameNode ρ) := by
  refine .openScope here fun inner => .bind (blockEntries_renames hlist) ?_
  rintro ids _ g' _ ⟨hids, rfl⟩
  refine .bind_equal (blockType_renames hids) fun type => ?_
  exact .make (.block ids type) (by simp [Shape.kind]) hids

private theorem requireAscribed_renames {annotated : Hint} {actual : TyId}
    {problem : Bytes → Bytes → BindProblem} :
    Renames ρ scope g (requireAscribed annotated actual problem type value)
      (requireAscribed annotated actual problem type value) Equal := by
  cases annotated with
  | none => exact .pure_equal ()
  | some declared =>
    simp only [requireAscribed]
    split
    · exact .pure_equal ()
    · exact .bind_equal (.typeText _) fun _ => .bind_equal (.typeText _) fun _ => .fail _ _ _

/-- What binding a constant does before it makes the node. No name is bound by then. -/
def constantValue (h : ExprHead) (type value : Part FrameTable) (scope : ScopeId) (hint : Hint) :
    BindM FrameTable (TyId × Value) := do
  let annotated ← ascription h type scope
  let id ← value.bind (← BindM.openScope scope) (annotated <|> hint)
  requireConstant id (.runtimeValue h.name) value.span
  let actual ← BindM.typeOf id
  requireAscribed annotated actual (.constantMismatch h.name) type value
  return (actual, ← evaluate id value.span)

theorem constant_eq (h : ExprHead) (type value : Part FrameTable) (scope : ScopeId) (hint : Hint) :
    constant h type value scope hint = (do
      let (actual, result) ← constantValue h type value scope hint
      let made ← BindM.make h.span (.constant h.name actual result)
      BindM.declare scope h.name made
      return made) := by
  simp [constant, constantValue]

theorem constantValue_renames (htype : type.Renames ρ) (hvalue : value.Renames ρ) :
    Renames ρ scope g (constantValue h type value here hint) (constantValue h type value here hint)
      fun g found found' => found' = (found.1, found.2.rename ρ) ∧
        ∀ q, found.2 = .procedure q → g.Issued q := by
  refine .bind_equal (ascription_renames htype) fun annotated => ?_
  refine .openScope_bind here (fun inner => hvalue inner (annotated <|> hint) g) ?_
  rintro id _ g' _ ⟨hid, rfl⟩
  refine .bind_equal (requireConstant_renames hid) fun _ => ?_
  refine .bind_equal (.typeOf hid) fun actual => ?_
  refine .bind_equal requireAscribed_renames fun _ => ?_
  refine .bind (evaluate_renames hid) ?_
  rintro result _ g'' _ ⟨hissued, rfl⟩
  exact .pure fun _ hgrow => ⟨rfl, fun q hq => hgrow.issued (hissued q hq)⟩

private theorem constant_renames (htype : type.Renames ρ) (hvalue : value.Renames ρ) :
    Renames ρ scope g (constant h type value scope hint) (constant h type value scope hint)
      (SameNode ρ) := by
  rw [constant_eq]
  refine .bind (constantValue_renames htype hvalue) ?_
  rintro ⟨actual, result⟩ _ g' _ ⟨rfl, hissued⟩
  refine .bind (.make (.constant h.name actual result) (by simp [Shape.kind]) ?_) ?_
  · intro e he
    cases result with
    | procedure q =>
      obtain rfl := List.mem_singleton.mp he
      exact hissued e rfl
    | _ => cases he
  · rintro made _ g'' _ ⟨hmade, rfl⟩
    exact .bind_equal (.declare h.name hmade) fun _ => .pure_node hmade

private theorem initialValue_renames {annotated : Hint} (hvalue : value.Renames ρ) :
    Renames ρ scope g (initialValue h type value here annotated)
      (initialValue h type value here annotated) (SameNode? ρ) := by
  unfold initialValue
  split
  · exact .pure fun _ _ => ⟨by simp, rfl⟩
  · refine .openScope_bind here (fun inner => hvalue inner annotated g) ?_
    rintro id _ g' _ ⟨hid, rfl⟩
    refine .bind_equal (.typeOf hid) fun actual => ?_
    refine .bind_equal requireAscribed_renames fun _ => ?_
    exact .pure fun g'' hgrow => ⟨by simpa using hgrow.issued hid, rfl⟩

private theorem declaredType_renames {annotated : Hint} {init : Option NodeId}
    (hinit : ∀ id ∈ init, g.Issued id) :
    Renames ρ scope g (declaredType h annotated init hint)
      (declaredType h annotated (init.map ρ) hint) Equal := by
  rcases annotated with _ | annotated
  · rcases init with _ | init
    · rcases hint with _ | hint
      · exact .fail _ _ _
      · exact .pure_equal hint
    · exact .typeOf (hinit init rfl)
  · exact .pure_equal annotated

private theorem declaration_renames (htype : type.Renames ρ) (hvalue : value.Renames ρ) :
    Renames ρ scope g (declaration h type value scope hint) (declaration h type value scope hint)
      (SameNode ρ) := by
  refine .bind_equal (ascription_renames htype) fun annotated => ?_
  refine .bind (initialValue_renames hvalue) ?_
  rintro init _ g' _ ⟨hinit, rfl⟩
  refine .bind_equal (declaredType_renames hinit) fun own => ?_
  refine .bind (.make (.declaration h.name own init) (by simp [Shape.kind]) ?_) ?_
  · simpa [Shape.edges] using hinit
  · rintro made _ g'' _ ⟨hmade, rfl⟩
    exact .bind_equal (.declare h.name hmade) fun _ => .pure_node hmade

private theorem name_renames : Renames ρ scope g (name h here) (name h here) (SameNode ρ) := by
  refine .bind (.visible? h.name here) ?_
  rintro found _ g' _ ⟨hfound, rfl⟩
  cases found with
  | none => exact .fail _ _ _
  | some target =>
    have htarget := hfound target rfl
    refine .bind (.getNode htarget) fun _ _ g'' hgrow _ => ?_
    exact .make (.name target) (by simp [Shape.kind])
      (by simpa [Shape.edges] using hgrow.issued htarget)

private theorem literalType_renames :
    Renames ρ scope g (literalType hint) (literalType hint) Equal := by
  have hdefault (p : Primitive) : Renames ρ scope g (do return (← BindM.primitive p, p))
      (do return (← BindM.primitive p, p)) Equal :=
    .bind_equal (.primitive p) fun id => .pure_equal (id, p)
  cases hint with
  | none => exact hdefault .int
  | some id =>
    refine .bind_equal (.describe id) fun t => ?_
    split
    · split
      · exact .pure_equal _
      · exact hdefault .int
    · exact hdefault .int

private theorem intLit_renames :
    Renames ρ scope g (intLit h hint) (intLit h hint) (SameNode ρ) := by
  refine .bind_equal literalType_renames fun type => ?_
  dsimp only
  split
  · next n _ =>
    split
    · exact .make (.constant [] type.1 (.int n)) (by simp [Shape.kind]) nofun
    · exact .bind_equal (.typeText type.1) fun _ => .fail _ _ _
  · exact .bind_equal (.typeText type.1) fun _ => .fail _ _ _

private theorem member_renames (hvalue : value.Renames ρ) :
    Renames ρ scope g (member h value scope) (member h value scope) (SameNode ρ) := by
  refine .bind (hvalue scope none g) ?_
  rintro operand _ g' _ ⟨hoperand, rfl⟩
  have hedges : ∀ e ∈ [operand], g'.Issued e := by simpa using hoperand
  refine .bind_equal (.typeOf hoperand) fun type => .bind_equal (.describe type) fun t => ?_
  split
  · split
    · refine .bind_equal (.wrap .multipointer _) fun own => ?_
      exact .make (.member operand _ own) (by simp [Shape.kind]) hedges
    · refine .bind_equal (.primitive .uint) fun own => ?_
      exact .make (.member operand _ own) (by simp [Shape.kind]) hedges
    · exact .bind_equal (.typeText type) fun _ => .fail _ _ _
  · exact .bind_equal (.typeText type) fun _ => .fail _ _ _

private theorem requireParameter_renames {e : Expr} :
    Renames ρ scope g (requireParameter e) (requireParameter e) Equal := by
  cases e with
  | absent => exact .throw _
  | node h type value body list =>
    simp only [requireParameter]
    split
    · exact .fail _ _ _
    · split
      · exact .pure_equal ()
      · exact .fail _ _ _

private theorem parameters_renames {suggested : List TyId} (hlist : ∀ p ∈ list, p.Renames ρ) :
    Renames ρ scope g (parameters list scope suggested) (parameters list scope suggested)
      fun g params params' => (∀ param ∈ params, g.Issued param.1) ∧
        params' = params.map fun param => (ρ param.1, param.2) := by
  induction list generalizing g suggested with
  | nil => exact .pure fun _ _ => ⟨by simp, rfl⟩
  | cons p rest ih =>
    refine .bind_equal requireParameter_renames fun _ => ?_
    refine .bind (hlist p List.mem_cons_self scope suggested.head? g) ?_
    rintro id _ g' _ ⟨hid, rfl⟩
    refine .bind_equal (.typeOf hid) fun type => ?_
    refine .bind (ih fun p hp => hlist p (List.mem_cons_of_mem _ hp)) ?_
    rintro params _ g'' hgrow ⟨hparams, rfl⟩
    refine .pure fun _ hgrow' => ⟨?_, rfl⟩
    rw [List.forall_mem_cons]
    exact ⟨hgrow'.issued (hgrow.issued hid), fun param hp => hgrow'.issued (hparams param hp)⟩

private theorem suggestedParams_renames :
    Renames ρ scope g (suggestedParams hint) (suggestedParams hint) Equal := by
  cases hint with
  | none => exact .pure_equal []
  | some id => exact .bind_equal (.describe id) fun t => .pure_equal t.params

private theorem signatureType_renames {params : List TyId} {returns : TyId} :
    Renames ρ scope g (signatureType params returns hint) (signatureType params returns hint)
      Equal := by
  cases hint with
  | none => exact .procedureType params returns
  | some id =>
    refine .bind_equal (.askTypes (·.isProcedure id params returns)) fun same => ?_
    split
    · exact .pure_equal id
    · exact .procedureType params returns

private theorem requireReturned_renames {actual returns : TyId} :
    Renames ρ scope g (requireReturned actual returns type body)
      (requireReturned actual returns type body) Equal := by
  unfold requireReturned
  split
  · exact .pure_equal ()
  · exact .bind_equal (.typeText _) fun _ => .bind_equal (.typeText _) fun _ => .fail _ _ _

private theorem procedure_renames (htype : type.Renames ρ) (hbody : body.Renames ρ)
    (hlist : ∀ p ∈ list, p.Renames ρ) :
    Renames ρ scope g (procedure h type body list here hint)
      (procedure h type body list here hint) (SameNode ρ) := by
  refine .openScope here fun inner => .bind_equal suggestedParams_renames fun suggested => ?_
  refine .bind (parameters_renames hlist) ?_
  rintro params _ g' _ ⟨hparams, rfl⟩
  refine .bind_equal (typeDenoted_renames htype) fun returns => ?_
  refine .bind (hbody inner (some returns) g') ?_
  rintro bodyId _ g'' hgrow ⟨hbodyId, rfl⟩
  refine .bind_equal (.typeOf hbodyId) fun actual => ?_
  refine .bind_equal requireReturned_renames fun _ => ?_
  have hfst : (params.map fun param => (ρ param.1, param.2)).map Prod.fst =
      (params.map Prod.fst).map ρ := by simp
  have hsnd : (params.map fun param => (ρ param.1, param.2)).map Prod.snd =
      params.map Prod.snd := by simp
  rw [hfst, hsnd]
  refine .bind_equal signatureType_renames fun own => ?_
  refine .make (.procedure (params.map Prod.fst) returns own bodyId) (by simp [Shape.kind]) ?_
  intro e he
  rcases List.mem_append.mp he with he | he
  · obtain ⟨param, hparam, rfl⟩ := List.mem_map.mp he
    exact hgrow.issued (hparams param hparam)
  · obtain rfl := List.mem_singleton.mp he
    exact hbodyId

private theorem conversionArguments_renames (hlist : ∀ p ∈ list, p.Renames ρ) :
    Renames ρ scope g (conversionArguments list here hint) (conversionArguments list here hint)
      (SameNodes ρ) := by
  induction list generalizing g with
  | nil => exact .pure_nodes (by simp)
  | cons p rest ih =>
    refine .openScope_bind here (fun inner => hlist p List.mem_cons_self inner hint g) ?_
    rintro id _ g' _ ⟨hid, rfl⟩
    refine .bind (ih fun p hp => hlist p (List.mem_cons_of_mem _ hp)) ?_
    rintro ids _ g'' hgrow ⟨hids, rfl⟩
    exact .pure_nodes (List.forall_mem_cons.mpr ⟨hgrow.issued hid, hids⟩)

private theorem conversion_renames (hid : g.Issued id) (hlist : ∀ p ∈ list, p.Renames ρ) :
    Renames ρ scope g (conversion h id value list here) (conversion h (ρ id) value list here)
      (SameNode ρ) := by
  refine .bind_equal (typeValue_renames hid) fun target => ?_
  refine .bind (conversionArguments_renames hlist) ?_
  rintro args _ g' _ ⟨hargs, rfl⟩
  rcases args with _ | ⟨arg, _ | ⟨other, rest⟩⟩
  · exact .bind_equal (.typeText target) fun _ => .fail _ _ _
  · have harg := hargs arg List.mem_cons_self
    refine .bind_equal (.typeOf harg) fun source => ?_
    split
    · exact .pure_node harg
    · refine .bind_equal (.describe target) fun t => .bind_equal (.describe source) fun r => ?_
      dsimp only
      split
      · exact .make (.cast target [arg]) (by simp [Shape.kind]) hargs
      · exact .bind_equal (.typeText _) fun _ => .bind_equal (.typeText _) fun _ => .fail _ _ _
  · refine .bind_equal (.typeText target) fun _ => ?_
    rw [List.length_map]
    exact .fail _ _ _

private theorem requireArgument_renames {position : Nat} {actual expected : TyId} :
    Renames ρ scope g (requireArgument position actual expected p)
      (requireArgument position actual expected p) Equal := by
  unfold requireArgument
  split
  · exact .pure_equal ()
  · exact .bind_equal (.typeText _) fun _ => .bind_equal (.typeText _) fun _ => .fail _ _ _

private theorem invocationArguments_renames {position : Nat} {params : List TyId}
    (hlist : ∀ p ∈ list, p.Renames ρ) :
    Renames ρ scope g (invocationArguments position list params here)
      (invocationArguments position list params here) (SameNodes ρ) := by
  induction list generalizing g position params with
  | nil => exact .pure_nodes (by simp)
  | cons p rest ih =>
    cases params with
    | nil => exact .pure_nodes (by simp)
    | cons expected params =>
      have hp := hlist p List.mem_cons_self
      refine .openScope_bind here (fun inner => hp inner (some expected) g) ?_
      rintro id _ g' _ ⟨hid, rfl⟩
      refine .bind_equal (.typeOf hid) fun actual => ?_
      refine .bind_equal requireArgument_renames fun _ => ?_
      refine .bind (ih fun p hp => hlist p (List.mem_cons_of_mem _ hp)) ?_
      rintro ids _ g'' hgrow ⟨hids, rfl⟩
      exact .pure_nodes (List.forall_mem_cons.mpr ⟨hgrow.issued hid, hids⟩)

private theorem invocation_renames {params : List TyId} {result : TyId} (hid : g.Issued id)
    (hlist : ∀ p ∈ list, p.Renames ρ) :
    Renames ρ scope g (invocation h id list params result here)
      (invocation h (ρ id) list params result here) (SameNode ρ) := by
  unfold invocation
  split
  · refine .bind (invocationArguments_renames hlist) ?_
    rintro args _ g' hgrow ⟨hargs, rfl⟩
    exact .make (.call id args result) (by simp [Shape.kind])
      (List.forall_mem_cons.mpr ⟨hgrow.issued hid, hargs⟩)
  · exact .bind_equal (.typeOf hid) fun _ => .bind_equal (.typeText _) fun _ => .fail _ _ _

private theorem call_renames (hvalue : value.Renames ρ) (hlist : ∀ p ∈ list, p.Renames ρ) :
    Renames ρ scope g (call h value list scope) (call h value list scope) (SameNode ρ) := by
  refine .bind (hvalue scope none g) ?_
  rintro operand _ g' _ ⟨hoperand, rfl⟩
  refine .bind_equal (.typeOf hoperand) fun type => .bind_equal (.describe type) fun t => ?_
  split
  · exact conversion_renames hoperand hlist
  · exact invocation_renames hoperand hlist
  · exact .bind_equal (.typeText type) fun _ => .fail _ _ _

private theorem wrapperType_renames {w : Wrapper} (htype : type.Renames ρ) :
    Renames ρ scope g (wrapperType w h type here hint) (wrapperType w h type here hint)
      (SameNode ρ) := by
  refine .bind_equal (typeDenoted_renames htype) fun elem => ?_
  refine .bind_equal (.wrap w elem) fun denoted => ?_
  refine .bind_equal hintedPrimitive_renames fun own => ?_
  exact .make (.typeLiteral denoted own) (by simp [Shape.kind]) nofun

private theorem expr_renames (htype : type.Renames ρ) (hvalue : value.Renames ρ)
    (hbody : body.Renames ρ) (hlist : ∀ p ∈ list, p.Renames ρ) :
    Renames ρ scope g (expr h type value body list scope hint)
      (expr h type value body list scope hint) (SameNode ρ) := by
  unfold expr
  split
  · exact block_renames hlist
  · exact constant_renames htype hvalue
  · exact declaration_renames htype hvalue
  · exact name_renames
  · exact intLit_renames
  · exact .openScope scope fun inner => hvalue inner hint g
  · exact member_renames hvalue
  · exact procedure_renames htype hbody hlist
  · exact call_renames hvalue hlist
  · exact wrapperType_renames htype
  · exact wrapperType_renames htype
  · exact wrapperType_renames htype
  all_goals exact .fail _ _ _

end Binder

namespace Expr

mutual

/-- Binding an expression makes the same nodes under other handles. -/
theorem bind_renames {ρ : Renaming} : (e : Expr) → Part.Renames ρ ⟨e, e.bind⟩
  | absent => fun _ _ _ => .throw _
  | node h type value body list => by
    intro scope hint g
    refine .traced _ ?_
    exact Binder.expr_renames (bind_renames type) (bind_renames value) (bind_renames body)
      (bindParts_renames list)

private theorem bindParts_renames {ρ : Renaming} :
    (list : List Expr) → ∀ p ∈ bindParts list, p.Renames ρ
  | [] => by simp [bindParts]
  | e :: rest => by
    rw [bindParts, List.forall_mem_cons]
    exact ⟨bind_renames e, bindParts_renames rest⟩

end

end Expr

namespace SyntaxFile

private theorem requireItem_renames {ρ : Renaming} {scope : ScopeId} {g : Graph} {e : Expr} :
    Renames ρ scope g (requireItem e) (requireItem e) Equal := by
  cases e with
  | absent => exact .throw _
  | node h type value body list =>
    simp only [requireItem]
    split
    · exact .pure_equal ()
    · exact .fail _ _ _

theorem bindItems_renames {ρ : Renaming} {g : Graph} {items : List Expr} :
    Renames ρ Universe.root g (bindItems items) (bindItems items) (SameNodes ρ) := by
  induction items generalizing g with
  | nil => exact .pure_nodes (by simp)
  | cons e rest ih =>
    refine .bind_equal requireItem_renames fun _ => ?_
    refine .bind (Expr.bind_renames e Universe.root none g) ?_
    rintro id _ g' _ ⟨hid, rfl⟩
    refine .bind ih ?_
    rintro ids _ g'' hgrow ⟨hids, rfl⟩
    exact .pure_nodes (List.forall_mem_cons.mpr ⟨hgrow.issued hid, hids⟩)

end SyntaxFile

end Keywordless
