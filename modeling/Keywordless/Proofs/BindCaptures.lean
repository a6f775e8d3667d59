import Keywordless.Proofs.Captures
import Keywordless.Proofs.ParserSpans

/-!
# What procedures capture

Binding keeps account of open declarations at every step, from which it follows what procedures of a
file that was bound can use: their own declarations, those of procedures below them and those of the
procedures around them. A procedure that a name at the top denotes uses nothing from outside.
-/

namespace Keywordless

open BindM (Still Yields)

/-- The part keeps account of open declarations and makes procedures in `room` only. -/
def Part.Accounts (room : Span) (p : Part FrameTable) : Prop :=
  ∀ o scope hint g t, t.Sees g o scope → Yields g t (p.bind scope hint) fun id g' t' =>
    Keywordless.Accounts room o (o.within [id]) scope g t [id] g' t'

namespace Binder

variable {room : Span} {o : Opened} {scope : ScopeId} {g : Graph} {t : FrameTable}
  {h : ExprHead} {p type value body : Part FrameTable} {list : List (Part FrameTable)}

theorem requireConstant_still (id : NodeId) (problem : BindProblem) (span : Span) :
    Still (requireConstant id problem span : BindM FrameTable Unit) := by
  refine .bind (.ask _) fun constant => ?_
  cases constant with
  | true => exact .pure ()
  | false => exact .fail _ _ _

theorem requireTypeOfTypes_still (type : TyId) (span : Span) (use : TypeUse) :
    Still (requireTypeOfTypes type span use : BindM FrameTable Unit) := by
  refine .bind (.describe type) fun described => ?_
  split
  · exact .pure ()
  · exact .bind (.typeText type) fun _ => .fail _ _ _

private theorem evaluate_bind {α : Type} {id : NodeId} {span : Span}
    {next : Value → BindM FrameTable α} {post : α → Graph → FrameTable → Prop}
    (hnext : ∀ value, g.evaluate id = .ok (.ok value) → Yields g t (next value) post) :
    Yields g t (evaluate id span >>= next) post := by
  unfold evaluate
  rw [bind_assoc]
  refine .askGraph_bind (·.evaluate id) fun outcome houtcome => ?_
  cases outcome with
  | ok value =>
    rw [pure_bind]
    exact hnext value houtcome
  | error reason => exact .fail_bind _ _ _

/-- What denotes a type can be evaluated, so it opens nothing. -/
theorem typeValue_yields (id : NodeId) (span : Span) (use : TypeUse) :
    Yields g t (typeValue id span use) fun _ g' t' =>
      g' = g ∧ t' = t ∧ ∃ value, g.evaluate id = .ok (.ok value) := by
  refine .still_bind (requireConstant_still _ _ _) fun _ => ?_
  refine .still_bind (.typeOf id) fun type => ?_
  refine .still_bind (requireTypeOfTypes_still _ _ _) fun _ => ?_
  refine evaluate_bind fun value hvalue => ?_
  cases value with
  | type denoted => exact .pure ⟨rfl, rfl, _, hvalue⟩
  | _ => exact .fail _ _ _

private theorem typeDenoted_accounts (hp : p.Accounts room) (hsees : t.Sees g o scope)
    (use : TypeUse) :
    Yields g t (typeDenoted p scope use) fun _ g' t' => Accounts room o o scope g t [] g' t' := by
  refine .openScope_bind (.still_bind (.primitive _) fun _ => ?_)
  refine .bind (hp o _ _ _ _ hsees.child) fun id g' t' hgrow hid => ?_
  refine (typeValue_yields id p.span use).imp ?_
  rintro denoted _ _ - ⟨rfl, rfl, value, hvalue⟩
  obtain ⟨node, hnode, hleaf, hkind⟩ := Graph.leaf_of_evaluate hvalue
  exact (hid.drop hnode hleaf hkind).left hsees hgrow

private theorem ascription_accounts (htype : type.Accounts room) (hsees : t.Sees g o scope) :
    Yields g t (ascription h type scope) fun _ g' t' => Accounts room o o scope g t [] g' t' := by
  unfold ascription
  split
  · exact .pure (.none hsees)
  · refine .bind (typeDenoted_accounts htype hsees _) fun denoted g' t' _ hdenoted => ?_
    exact .pure hdenoted

private theorem blockEntries_accounts (hlist : ∀ p ∈ list, p.Accounts room)
    (hsees : t.Sees g o scope)
    (hint : Hint) : Yields g t (blockEntries list scope hint) fun ids g' t' =>
      Accounts room o (o.within ids) scope g t ids g' t' := by
  induction list generalizing g t o with
  | nil => exact .pure (.none (hsees.mono Opened.under_within))
  | cons p rest ih =>
    have hp := hlist p List.mem_cons_self
    cases rest with
    | nil =>
      refine .bind (hp o scope hint g t hsees) fun id g' t' _ hid => ?_
      exact .pure hid
    | cons q rest =>
      refine .bind (hp o scope none g t hsees) fun id g' t' _ hid => ?_
      refine .bind (ih (fun p hp => hlist p (List.mem_cons_of_mem _ hp)) hid.sees) ?_
      intro ids g'' t'' hgrow hids
      refine .pure ?_
      exact (hid.append hgrow hids (.refl _ _)).visible Opened.within_within_under

theorem hintedPrimitive_still (p : Primitive) (hint : Hint) :
    Still (hintedPrimitive p hint : BindM FrameTable TyId) := by
  cases hint with
  | none => exact .primitive p
  | some id =>
    refine .bind (.describe id) fun described => ?_
    split
    · exact .pure id
    · exact .primitive p

theorem blockType_still (ids : List NodeId) (hint : Hint) :
    Still (blockType ids hint : BindM FrameTable TyId) := by
  unfold blockType
  split
  · exact .typeOf _
  · exact hintedPrimitive_still _ _

private theorem block_accounts (hlist : ∀ p ∈ list, p.Accounts room) (hsees : t.Sees g o scope)
    (hint : Hint) : Yields g t (block h list scope hint) fun id g' t' =>
      Accounts room o (o.within [id]) scope g t [id] g' t' := by
  refine .openScope_bind (.bind (blockEntries_accounts hlist hsees.child hint) ?_)
  intro ids g' t' hgrow hids
  refine .still_bind (blockType_still ids hint) fun type => .make ?_
  exact (hids.left hsees hgrow).wrap Opened.under_within rfl (by simp [Shape.kind])

theorem requireAscribed_still (annotated : Hint) (actual : TyId)
    (problem : Bytes → Bytes → BindProblem) :
    Still (requireAscribed annotated actual problem type value) := by
  cases annotated with
  | none => exact .pure ()
  | some declared =>
    simp only [requireAscribed]
    split
    · exact .pure ()
    · exact .bind (.typeText _) fun _ => .bind (.typeText _) fun _ => .fail _ _ _

private theorem accounted_constant {x : NodeId} {span : Span} {name : Bytes} {type : TyId}
    {v : Value} {opened : NodeId → Prop} (hx : g.get? x = some ⟨span, .constant name type v⟩)
    (hv : ∀ q, v = .procedure q → g.Closed opened q) : g.Accounted opened x := by
  refine ⟨.of_parts hx (fun _ => Shape.noConfusion) ?_, ?_⟩
  · intro y hy
    cases v with
    | procedure q =>
      obtain rfl := List.mem_singleton.mp hy
      exact hv y rfl
    | _ => cases hy
  · intro q hq
    rcases hq.cases hx with ⟨hkind, -⟩ | ⟨_, _, hshape⟩ | ⟨_, hshape, -⟩
    · cases hkind
    · exact hv q (Shape.constant.inj hshape).2.2
    · cases hshape

/-- A constant opens nothing, so the scope sees under what was open before. -/
theorem constant_accounts (htype : type.Accounts room) (hvalue : value.Accounts room)
    (hsees : t.Sees g o scope) (hint : Hint) :
    Yields g t (constant h type value scope hint) fun id g' t' =>
      Accounts room o o scope g t [id] g' t' ∧
        ∃ node, g'.get? id = some node ∧ node.shape.kind = .constant := by
  refine .bind (ascription_accounts htype hsees) fun annotated g₁ t₁ _ htyped => ?_
  refine .openScope_bind (.bind (hvalue o _ _ _ _ htyped.sees.child) ?_)
  intro id g₂ t₂ hgrow hid
  refine .still_bind (requireConstant_still _ _ _) fun _ => ?_
  refine .still_bind (.typeOf id) fun actual => ?_
  refine .still_bind (requireAscribed_still _ _ _) fun _ => evaluate_bind fun result hresult => ?_
  obtain ⟨node, hnode, hleaf, hkind⟩ := Graph.leaf_of_evaluate hresult
  have hbound : Accounts room o o scope g t [] g₂ t₂ :=
    htyped.append hgrow ((hid.drop hnode hleaf hkind).left htyped.sees hgrow) Opened.under_within
  refine .make_bind (.declare_bind (.pure ?_))
  have hmade : Accounts room o o scope g t _ _ t₂ :=
    hbound.leaf ⟨h.span, .constant h.name actual result⟩ (by simp [Shape.kind]) <| by
      intro later hlater
      refine accounted_constant (hlater.kept (Arena.get?_insert_self _ _)) ?_
      rintro q rfl
      have hlater' := (Arena.insert_extends g₂ _).trans hlater
      have hgives := (Graph.gives_of_evaluate hresult).kept hlater'
      refine ((hid.nodes later hlater' id (List.mem_singleton_self id)).gives q hgives).mono ?_
      exact Opened.within_leaf_under hnode hleaf hkind later hlater'
  refine ⟨((hmade.visible Opened.under_within).declare h.name).visible ?_,
    _, Arena.get?_insert_self _ _, rfl⟩
  exact Opened.within_leaf_under (Arena.get?_insert_self _ _) rfl (by simp [Shape.kind])

private theorem initialValue_accounts (hvalue : value.Accounts room) (hsees : t.Sees g o scope)
    (annotated : Hint) : Yields g t (initialValue h type value scope annotated) fun init g' t' =>
      Accounts room o o scope g t init.toList g' t' := by
  unfold initialValue
  split
  · exact .pure (.none hsees)
  · refine .openScope_bind (.bind (hvalue o _ _ _ _ hsees.child) fun id g' t' hgrow hid => ?_)
    refine .still_bind (.typeOf id) fun actual => ?_
    refine .still_bind (requireAscribed_still _ _ _) fun _ => .pure ?_
    exact hid.left hsees hgrow

theorem declaredType_still (annotated hint : Hint) (init : Option NodeId) :
    Still (declaredType h annotated init hint : BindM FrameTable TyId) := by
  rcases annotated with _ | _
  · rcases init with _ | init
    · rcases hint with _ | _
      · exact .fail _ _ _
      · exact .pure _
    · exact .typeOf init
  · exact .pure _

private theorem declaration_accounts (htype : type.Accounts room) (hvalue : value.Accounts room)
    (hsees : t.Sees g o scope) (hint : Hint) :
    Yields g t (declaration h type value scope hint) fun id g' t' =>
      Accounts room o (o.within [id]) scope g t [id] g' t' := by
  refine .bind (ascription_accounts htype hsees) fun annotated g₁ t₁ _ htyped => ?_
  refine .bind (initialValue_accounts hvalue htyped.sees annotated) fun init g₂ t₂ hgrow hinit => ?_
  refine .still_bind (declaredType_still _ _ _) fun declared => ?_
  refine .make_bind (.declare_bind (.pure ?_))
  have hbound : Accounts room o o scope g t init.toList g₂ t₂ :=
    htyped.append hgrow hinit Opened.under_within
  exact (hbound.wrap Opened.under_within rfl (by simp [Shape.kind])).declare h.name

private theorem name_accounts (hsees : t.Sees g o scope) :
    Yields g t (name h scope) fun id g' t' =>
      Accounts room o (o.within [id]) scope g t [id] g' t' := by
  refine .visible?_bind ?_
  cases htarget : t.lookup scope h.name with
  | none => exact .fail _ _ _
  | some target =>
    refine .still_bind (.ask _) fun _ => .make ?_
    refine Accounts.visible (.leaf (.none hsees) _ (by simp [Shape.kind]) ?_) Opened.under_within
    intro later hlater
    have hlater' := (Arena.insert_extends g _).trans hlater
    have hself := hlater.kept (Arena.get?_insert_self g ⟨h.span, .name target⟩)
    obtain ⟨hseen, hdecl⟩ := hsees.names h.name target htarget later hlater'
    refine ⟨.of_name hself hdecl, ?_⟩
    intro q hq
    rcases hq.cases hself with ⟨hkind, -⟩ | ⟨_, _, hshape⟩ | ⟨other, hshape, hgives⟩
    · cases hkind
    · cases hshape
    · obtain rfl := Shape.name.inj hshape
      exact hseen.gives q hgives

theorem literalType_still (hint : Hint) :
    Still (literalType hint : BindM FrameTable (TyId × Primitive)) := by
  have hdefault (p : Primitive) :
      Still (do return (← BindM.primitive p, p) : BindM FrameTable (TyId × Primitive)) :=
    .bind (.primitive p) fun _ => .pure _
  cases hint with
  | none => exact hdefault .int
  | some id =>
    refine .bind (.describe id) fun described => ?_
    split
    · split
      · exact .pure _
      · exact hdefault .int
    · exact hdefault .int

private theorem intLit_accounts (hsees : t.Sees g o scope) (hint : Hint) :
    Yields g t (intLit h hint) fun id g' t' =>
      Accounts room o (o.within [id]) scope g t [id] g' t' := by
  refine .still_bind (literalType_still hint) fun found => ?_
  dsimp only
  split
  · split
    · refine .make ?_
      refine Accounts.visible (.leaf (.none hsees) _ (by simp [Shape.kind]) ?_) Opened.under_within
      intro later hlater
      exact accounted_constant (hlater.kept (Arena.get?_insert_self _ _)) (by simp)
    · exact .still_bind (.typeText _) fun _ => .fail _ _ _
  · exact .still_bind (.typeText _) fun _ => .fail _ _ _

private theorem member_accounts (hvalue : value.Accounts room) (hsees : t.Sees g o scope) :
    Yields g t (member h value scope) fun id g' t' =>
      Accounts room o (o.within [id]) scope g t [id] g' t' := by
  refine .bind (hvalue o scope none g t hsees) fun operand g' t' _ hoperand => ?_
  refine .still_bind (.typeOf operand) fun type => .still_bind (.describe type) fun described => ?_
  split
  · split
    · refine .still_bind (.wrap _ _) fun _ => .make ?_
      exact hoperand.wrap (.refl _ _) rfl (by simp [Shape.kind])
    · refine .still_bind (.primitive _) fun _ => .make ?_
      exact hoperand.wrap (.refl _ _) rfl (by simp [Shape.kind])
    · exact .still_bind (.typeText _) fun _ => .fail _ _ _
  · exact .still_bind (.typeText _) fun _ => .fail _ _ _

theorem requireParameter_still (e : Expr) : Still (requireParameter e : BindM FrameTable Unit) := by
  cases e with
  | absent => exact .throw _
  | node h type value body list =>
    simp only [requireParameter]
    split
    · exact .fail _ _ _
    · split
      · exact .pure ()
      · exact .fail _ _ _

private theorem parameters_accounts (hlist : ∀ p ∈ list, p.Accounts room) (hsees : t.Sees g o scope)
    (suggested : List TyId) : Yields g t (parameters list scope suggested) fun params g' t' =>
      Accounts room o (o.within (params.map Prod.fst)) scope g t (params.map Prod.fst) g' t' := by
  induction list generalizing g t o suggested with
  | nil => exact .pure (.none (hsees.mono Opened.under_within))
  | cons p rest ih =>
    refine .still_bind (requireParameter_still _) fun _ => ?_
    refine .bind (hlist p List.mem_cons_self o scope _ g t hsees) fun id g' t' _ hid => ?_
    refine .still_bind (.typeOf id) fun type => ?_
    refine .bind (ih (fun p hp => hlist p (List.mem_cons_of_mem _ hp)) hid.sees _) ?_
    intro params g'' t'' hgrow hparams
    refine .pure ?_
    exact (hid.append hgrow hparams (.refl _ _)).visible Opened.within_within_under

theorem suggestedParams_still (hint : Hint) :
    Still (suggestedParams hint : BindM FrameTable (List TyId)) := by
  cases hint with
  | none => exact .pure []
  | some id => exact .bind (.describe id) fun _ => .pure _

theorem signatureType_still (params : List TyId) (returns : TyId) (hint : Hint) :
    Still (signatureType params returns hint : BindM FrameTable TyId) := by
  cases hint with
  | none => exact .procedureType params returns
  | some id =>
    refine .bind (.ask _) fun same => ?_
    cases same with
    | true => exact .pure id
    | false => exact .procedureType params returns

theorem requireReturned_still (actual returns : TyId) :
    Still (requireReturned actual returns type body) := by
  unfold requireReturned
  split
  · exact .pure ()
  · exact .bind (.typeText _) fun _ => .bind (.typeText _) fun _ => .fail _ _ _

/-- A procedure makes room for the procedures in it and closes what they opened. -/
theorem procedure_accounts (htype : type.Accounts h.span) (hbody : body.Accounts h.span)
    (hlist : ∀ p ∈ list, p.Accounts h.span) (hsees : t.Sees g o scope) (hint : Hint) :
    Yields g t (procedure h type body list scope hint) fun id g' t' =>
      Accounts h.span o (o.within [id]) scope g t [id] g' t' := by
  refine .openScope_bind (.still_bind (suggestedParams_still hint) fun suggested => ?_)
  refine .bind (parameters_accounts hlist hsees.child suggested) ?_
  intro params g₁ t₁ hgrow₁ hparams
  refine .bind (typeDenoted_accounts htype hparams.sees _) fun returns g₂ t₂ hgrow₂ hreturns => ?_
  refine .bind (hbody _ _ _ _ _ hreturns.sees) fun bodyId g₃ t₃ hgrow₃ hbound => ?_
  refine .still_bind (.typeOf bodyId) fun actual => ?_
  refine .still_bind (requireReturned_still _ _) fun _ => ?_
  refine .still_bind (signatureType_still _ _ _) fun own => .make ?_
  have hinside := hparams.append (hgrow₂.trans hgrow₃)
    (hreturns.append hgrow₃ hbound Opened.under_within) (.refl _ _)
  have hleft := hinside.left hsees (hgrow₁.trans (hgrow₂.trans hgrow₃))
  exact (hleft.procedure rfl).visible Opened.under_within

private theorem conversionArguments_accounts (hlist : ∀ p ∈ list, p.Accounts room)
    (hsees : t.Sees g o scope) (hint : Hint) :
    Yields g t (conversionArguments list scope hint) fun ids g' t' =>
      Accounts room o (o.within ids) scope g t ids g' t' := by
  induction list generalizing g t o with
  | nil => exact .pure (.none (hsees.mono Opened.under_within))
  | cons p rest ih =>
    refine .openScope_bind (.bind (hlist p List.mem_cons_self o _ _ _ _ hsees.child) ?_)
    intro id g' t' hgrow hid
    have hleft : Accounts room o (o.within [id]) scope g t [id] g' t' :=
      (hid.left hsees hgrow).visible Opened.under_within
    refine .bind (ih (fun p hp => hlist p (List.mem_cons_of_mem _ hp)) hleft.sees) ?_
    intro ids g'' t'' hgrow' hids
    refine .pure ?_
    exact (hleft.append hgrow' hids (.refl _ _)).visible Opened.within_within_under

theorem requireArgument_still (position : Nat) (actual expected : TyId) :
    Still (requireArgument position actual expected p) := by
  unfold requireArgument
  split
  · exact .pure ()
  · exact .bind (.typeText _) fun _ => .bind (.typeText _) fun _ => .fail _ _ _

private theorem invocationArguments_accounts (hlist : ∀ p ∈ list, p.Accounts room)
    (hsees : t.Sees g o scope) (position : Nat) (params : List TyId) :
    Yields g t (invocationArguments position list params scope) fun ids g' t' =>
      Accounts room o (o.within ids) scope g t ids g' t' := by
  have hnone : Accounts room o (o.within []) scope g t [] g t :=
    .none (hsees.mono Opened.under_within)
  induction list generalizing g t o position params with
  | nil => exact .pure hnone
  | cons p rest ih =>
    cases params with
    | nil => exact .pure hnone
    | cons expected params =>
      refine .openScope_bind (.bind (hlist p List.mem_cons_self o _ _ _ _ hsees.child) ?_)
      intro id g' t' hgrow hid
      refine .still_bind (.typeOf id) fun actual => ?_
      refine .still_bind (requireArgument_still _ _ _) fun _ => ?_
      have hleft : Accounts room o (o.within [id]) scope g t [id] g' t' :=
        (hid.left hsees hgrow).visible Opened.under_within
      refine .bind (ih (fun p hp => hlist p (List.mem_cons_of_mem _ hp)) hleft.sees _ _
        (.none (hleft.sees.mono Opened.under_within))) ?_
      intro ids g'' t'' hgrow' hids
      refine .pure ?_
      exact (hleft.append hgrow' hids (.refl _ _)).visible Opened.within_within_under

private theorem conversion_accounts {operand : NodeId} {g' : Graph} {t' : FrameTable}
    (hlist : ∀ p ∈ list, p.Accounts room)
    (hoperand : Accounts room o (o.within [operand]) scope g t [operand] g' t') :
    Yields g' t' (conversion h operand value list scope) fun id g'' t'' =>
      Accounts room o (o.within [id]) scope g t [id] g'' t'' := by
  refine .bind (typeValue_yields operand value.span _) ?_
  rintro target _ _ - ⟨rfl, rfl, result, hresult⟩
  obtain ⟨node, hnode, hleaf, hkind⟩ := Graph.leaf_of_evaluate hresult
  have hdropped := (hoperand.drop hnode hleaf hkind).visible
    (Opened.within_leaf_under hnode hleaf hkind)
  refine .bind (conversionArguments_accounts hlist hdropped.sees _) fun args g₂ t₂ hgrow hargs => ?_
  have hall : Accounts room o (o.within args) scope g t args g₂ t₂ :=
    hdropped.append hgrow hargs Opened.under_within
  split
  · refine .still_bind (.typeOf _) fun source => ?_
    split
    · exact .pure hall
    · refine .still_bind (.describe _) fun _ => .still_bind (.describe _) fun _ => ?_
      dsimp only
      split
      · exact .make (hall.wrap (.refl _ _) rfl (by simp [Shape.kind]))
      · exact .still_bind (.typeText _) fun _ => .still_bind (.typeText _) fun _ => .fail _ _ _
  · exact .still_bind (.typeText _) fun _ => .fail _ _ _

private theorem invocation_accounts {operand : NodeId} {g' : Graph} {t' : FrameTable}
    (hlist : ∀ p ∈ list, p.Accounts room)
    (hoperand : Accounts room o (o.within [operand]) scope g t [operand] g' t')
    (params : List TyId) (result : TyId) :
    Yields g' t' (invocation h operand list params result scope) fun id g'' t'' =>
      Accounts room o (o.within [id]) scope g t [id] g'' t'' := by
  unfold invocation
  split
  · refine .bind (invocationArguments_accounts hlist hoperand.sees 1 params) ?_
    intro args g₂ t₂ hgrow hargs
    refine .make ((hoperand.append hgrow hargs (.refl _ _)).wrap ?_ rfl (by simp [Shape.kind]))
    exact Opened.within_within_under
  · exact .still_bind (.typeOf _) fun _ => .still_bind (.typeText _) fun _ => .fail _ _ _

private theorem call_accounts (hvalue : value.Accounts room) (hlist : ∀ p ∈ list, p.Accounts room)
    (hsees : t.Sees g o scope) : Yields g t (call h value list scope) fun id g' t' =>
      Accounts room o (o.within [id]) scope g t [id] g' t' := by
  refine .bind (hvalue o scope none g t hsees) fun operand g' t' _ hoperand => ?_
  refine .still_bind (.typeOf operand) fun type => .still_bind (.describe type) fun described => ?_
  split
  · exact conversion_accounts hlist hoperand
  · exact invocation_accounts hlist hoperand _ _
  · exact .still_bind (.typeText _) fun _ => .fail _ _ _

private theorem wrapperType_accounts (w : Wrapper) (htype : type.Accounts room)
    (hsees : t.Sees g o scope)
    (hint : Hint) : Yields g t (wrapperType w h type scope hint) fun id g' t' =>
      Accounts room o (o.within [id]) scope g t [id] g' t' := by
  refine .bind (typeDenoted_accounts htype hsees _) fun elem g' t' _ helem => ?_
  refine .still_bind (.wrap w elem) fun denoted => ?_
  refine .still_bind (hintedPrimitive_still _ _) fun own => .make ?_
  refine (helem.leaf _ (by simp [Shape.kind]) ?_).visible Opened.under_within
  intro later hlater
  exact .of_parts (hlater.kept (Arena.get?_insert_self _ _)) (by simp [Shape.kind])
    (by simp [Shape.parts, Shape.edges])

private theorem expr_accounts (htype : type.Accounts h.span) (hvalue : value.Accounts h.span)
    (hbody : body.Accounts h.span) (hlist : ∀ p ∈ list, p.Accounts h.span)
    (hsees : t.Sees g o scope) (hint : Hint) :
    Yields g t (expr h type value body list scope hint) fun id g' t' =>
      Accounts h.span o (o.within [id]) scope g t [id] g' t' := by
  unfold expr
  split
  · exact block_accounts hlist hsees hint
  · refine (constant_accounts htype hvalue hsees hint).imp fun id g' t' _ hid => ?_
    exact hid.1.visible Opened.under_within
  · exact declaration_accounts htype hvalue hsees hint
  · exact name_accounts hsees
  · exact intLit_accounts hsees hint
  · refine .openScope_bind ((hvalue o _ _ _ _ hsees.child).imp fun id g' t' hgrow hid => ?_)
    exact (hid.left hsees hgrow).visible Opened.under_within
  · exact member_accounts hvalue hsees
  · exact procedure_accounts htype hbody hlist hsees hint
  · exact call_accounts hvalue hlist hsees
  · exact wrapperType_accounts _ htype hsees hint
  · exact wrapperType_accounts _ htype hsees hint
  · exact wrapperType_accounts _ htype hsees hint
  all_goals exact .fail _ _ _

end Binder

namespace Expr

private theorem Fitted.inside {file : FileId} {h : ExprHead} {type value body e : Expr}
    {list : List Expr}
    (hfitted : Fitted file h type value body list) (he : e ∈ type :: value :: body :: list)
    (hnested : e.Nested file) : ∀ s ∈ e.ownSpans, s.Inside h.span := by
  intro s hs
  obtain ⟨hstart, -, hstop⟩ := (hfitted.part he).inside s hs
  refine ⟨?_, hstart, hstop⟩
  cases e with
  | absent => cases hs
  | node head type value body list =>
    obtain rfl := List.mem_singleton.mp hs
    exact hnested.1.file.trans hfitted.file.symm

mutual

private theorem bind_accounts {file : FileId} {room : Span} : (e : Expr) → e.Nested file →
    (∀ s ∈ e.ownSpans, s.Inside room) → Part.Accounts room ⟨e, e.bind⟩
  | absent, _, _ => by
    intro o scope hint g t _
    exact .throw _
  | node h type value body list, ⟨hfitted, htype, hvalue, hbody, hlist⟩, hin => by
    intro o scope hint g t hsees
    have hparts := allNested_iff.mp hlist
    refine .traced ((Binder.expr_accounts
      (bind_accounts type htype (hfitted.inside (by simp) htype))
      (bind_accounts value hvalue (hfitted.inside (by simp) hvalue))
      (bind_accounts body hbody (hfitted.inside (by simp) hbody))
      (bindParts_accounts list hlist fun e he => hfitted.inside (by simp [he]) (hparts e he))
      hsees hint).imp fun id g' t' _ hid => ?_)
    exact hid.widen (hin h.span (List.mem_singleton_self _))

private theorem bindParts_accounts {file : FileId} {room : Span} : (list : List Expr) →
    AllNested file list → (∀ e ∈ list, ∀ s ∈ e.ownSpans, s.Inside room) →
    ∀ p ∈ bindParts list, p.Accounts room
  | [], _, _ => by simp [bindParts]
  | e :: rest, ⟨he, hrest⟩, hin => by
    rw [bindParts, List.forall_mem_cons]
    rw [List.forall_mem_cons] at hin
    exact ⟨bind_accounts e he hin.1, bindParts_accounts rest hrest hin.2⟩

end

end Expr

namespace SyntaxFile

variable {room : Span} {o : Opened} {g : Graph} {t : FrameTable} {file : FileId}

private theorem requireItem_bind {α : Type} {e : Expr} {next : Unit → BindM FrameTable α}
    {post : α → Graph → FrameTable → Prop}
    (hnext : ∀ h type value body list, e = .node h type value body list → h.kind = .constant →
      Yields g t (next ()) post) : Yields g t (requireItem e >>= next) post := by
  cases e with
  | absent => exact .bind (.throw _) fun _ _ _ _ => False.elim
  | node h type value body list =>
    rw [requireItem]
    split
    · next hkind => exact hnext h type value body list rfl hkind
    · exact .fail_bind _ _ _

/-- Items at the top are constants, which open nothing. -/
theorem bindItems_accounts {items : List Expr} (hnested : ∀ e ∈ items, e.Nested file)
    (hin : ∀ e ∈ items, ∀ s ∈ e.ownSpans, s.Inside room) (hsees : t.Sees g o Universe.root) :
    Yields g t (bindItems items) fun _ g' t' => Accounts room o o Universe.root g t [] g' t' := by
  induction items generalizing g t with
  | nil => exact .pure (.none hsees)
  | cons e rest ih =>
    rw [List.forall_mem_cons] at hnested hin
    refine requireItem_bind fun h type value body list he hkind => ?_
    have hitem : Yields g t (e.bind Universe.root none) fun _ g' t' =>
        Accounts room o o Universe.root g t [] g' t' := by
      subst he
      obtain ⟨hfitted, htype, hvalue, -⟩ := hnested.1
      simp only [Expr.bind, Binder.expr, hkind]
      refine .traced ((Binder.constant_accounts
        (Expr.bind_accounts type htype fun s hs =>
          (hfitted.inside (by simp) htype s hs).trans (hin.1 h.span (List.mem_singleton_self _)))
        (Expr.bind_accounts value hvalue fun s hs =>
          (hfitted.inside (by simp) hvalue s hs).trans (hin.1 h.span (List.mem_singleton_self _)))
        hsees none).imp ?_)
      rintro id g' t' - ⟨hid, node, hnode, hconstant⟩
      exact hid.drop hnode (Shape.operands_constant hconstant) (by simp [hconstant])
    refine .bind hitem fun id g' t' _ hid => ?_
    refine .bind (ih hnested.2 hin.2 hid.sees) fun ids g'' t'' hgrow hids => .pure ?_
    exact hid.append hgrow hids Opened.under_within

private theorem exists_room {items : List Expr} (hnested : ∀ e ∈ items, e.Nested file) :
    ∃ room : Span, ∀ e ∈ items, ∀ s ∈ e.ownSpans, s.Inside room := by
  refine ⟨⟨file, 0, (items.map (·.span.stop)).sum⟩, ?_⟩
  intro e he s hs
  cases e with
  | absent => cases hs
  | node h type value body list =>
    obtain rfl := List.mem_singleton.mp hs
    refine ⟨(hnested _ he).1.file, Nat.zero_le _, ?_⟩
    exact List.le_sum_of_mem (List.mem_map_of_mem he)

private theorem bind_accounts {f : SyntaxFile} (hnested : ∀ e ∈ f.items, e.Nested file)
    (hsees : t.Sees g o Universe.root) : Yields g t f.bind fun _ g' t' =>
      ∃ room, Accounts room o o Universe.root g t [] g' t' := by
  obtain ⟨room, hroom⟩ := exists_room hnested
  refine .bind (bindItems_accounts hnested hroom hsees) fun ids g' t' _ hids => ?_
  refine .still_bind (.primitive _) fun type => .make ⟨room, ?_⟩
  exact hids.apart (by simp [Shape.kind])

end SyntaxFile

namespace Universe

structure Plain (u : Universe FrameTable) : Prop where
  sees : u.scopes.Sees u.graph (fun _ _ => False) root
  literals : ∀ id node, u.graph.get? id = some node → node.shape.kind = .typeLiteral

private theorem Plain.bindBuiltins {u : Universe FrameTable} (h : u.Plain) (offset : Nat)
    (list : List Primitive) : (u.bindBuiltins offset list).Plain := by
  induction list generalizing u offset with
  | nil => exact h
  | cons p rest ih =>
    refine ih ⟨?_, ?_⟩ _
    · refine (h.sees.later (Arena.insert_extends _ _)).insert fun later hlater => ?_
      have hself := hlater.kept (Arena.get?_insert_self _ _)
      refine ⟨.of_parts hself (by simp [Shape.kind]) nofun, ?_⟩
      rintro ⟨span, name, type, init, hdecl⟩
      cases hself.symm.trans hdecl
    · intro id node hid
      obtain ⟨rfl, rfl⟩ | hold := Arena.get?_insert_cases hid
      · rfl
      · exact h.literals id node hold

private theorem ofFiles_plain (files : FileSet) : (ofFiles files : Universe FrameTable).Plain := by
  have hempty (id : NodeId) : ({ tag := 1 } : Graph).get? id = none := by simp [Arena.get?]
  refine Plain.bindBuiltins ⟨⟨FrameTable.ordered_root, ?_, ?_⟩, ?_⟩ 0 builtins
  · exact Nat.zero_lt_one
  · intro name id hid
    cases hid
  · intro id node hid
    simp [hempty] at hid

end Universe

/-- A procedure of a file that was bound is a constant, whatever its body uses. The declarations it
uses belong to it, to a procedure below it or to a procedure around it. What a name at the top
denotes uses declarations of procedures below only. -/
theorem SourceFile.bind_captures_enclosing (f : SourceFile) (files : FileSet) (log : TraceLog)
    (parent : Nat) {root : NodeId} {s : BindState FrameTable}
    (hbound : f.parse.file.bind.exec ⟨.ofFiles files, log, parent⟩ = (.ok root, s)) :
    let g := s.world.graph
    (∀ p span params returns type body,
      g.get? p = some ⟨span, .procedure params returns type body⟩ →
        g.isConstant p = .ok true ∧
        ∀ d, g.Uses p d → ∃ q, g.Owns q d ∧ (g.Reaches p q ∨ g.Encloses q p)) ∧
    ∀ name id, s.world.lookup name = some id →
      ∀ d, g.Uses id d → ∃ q, g.Owns q d ∧ g.Reaches id q := by
  intro g
  have hplain := Universe.ofFiles_plain files
  obtain ⟨hgrow, room, haccounts⟩ := SyntaxFile.bind_accounts f.parse_items_nested hplain.sees
    ⟨.ofFiles files, log, parent⟩ rfl rfl root s hbound
  refine ⟨?_, ?_⟩
  · intro p span params returns type body hp
    have hconstant : g.isConstant p = .ok true :=
      Outcome.bind_eq_ok.mpr ⟨_, (Arena.get_eq_ok_iff g p _).mpr hp, rfl⟩
    refine ⟨hconstant, ?_⟩
    have hnew : (Universe.ofFiles files : Universe FrameTable).graph.get? p = none := by
      rw [Option.eq_none_iff_forall_ne_some]
      intro node hnode
      obtain rfl := Option.some.inj ((hgrow.kept hnode).symm.trans hp)
      cases hplain.literals p _ hnode
    obtain ⟨-, hsettled⟩ := haccounts.procedures p _ hp rfl hnew
    intro d hd
    rcases hsettled g (.refl _) d hd with hdone | hopen | ⟨_, hnil, -⟩
    · exact hdone
    · exact hopen.elim
    · cases hnil
  · intro name id hid d hd
    obtain ⟨haccounted, -⟩ := haccounts.sees.names name id hid g (.refl _)
    rcases haccounted.closed d hd with ⟨q, hreach, howns⟩ | hopen
    · exact ⟨q, howns, hreach⟩
    · exact hopen.elim

/-! ### A procedure that captures a parameter -/

def capturing : SourceFile where
  id := 1
  path := "main.nkl"
  content := "outer :: (x: int) -> int \x7b inner :: () -> int \x7b x \x7d; inner() \x7d\n"

namespace Capturing

def bound : Except BindFailure NodeId × BindState FrameTable :=
  capturing.parse.file.bind.exec ⟨.ofFiles {}, {}, 0⟩

def graph : Graph := bound.2.world.graph

def parameter : NodeId := ⟨1, 7⟩

def inner : NodeId := ⟨1, 12⟩

def outer : NodeId := ⟨1, 17⟩

-- The file is bound once for all that is asked of the graph.
private theorem bound_nodes :
    bound.1.toOption = some ⟨1, 19⟩ ∧
      graph.get? inner = some ⟨⟨1, 36, 51⟩, .procedure [] ⟨1, 3⟩ ⟨1, 6⟩ ⟨1, 11⟩⟩ ∧
      graph.get? outer = some ⟨⟨1, 9, 62⟩, .procedure [parameter] ⟨1, 3⟩ ⟨1, 7⟩ ⟨1, 16⟩⟩ ∧
      graph.get? ⟨1, 11⟩ = some ⟨⟨1, 46, 51⟩, .block [⟨1, 10⟩] ⟨1, 3⟩⟩ ∧
      graph.get? ⟨1, 10⟩ = some ⟨⟨1, 48, 49⟩, .name parameter⟩ ∧
      graph.get? parameter = some ⟨⟨1, 10, 16⟩, .declaration "x" ⟨1, 3⟩ none⟩ := by
  decide +kernel

private theorem bound_ok : bound.1 = .ok ⟨1, 19⟩ := Outcome.eq_ok_of_toOption bound_nodes.1

private theorem get?_inner :
    graph.get? inner = some ⟨⟨1, 36, 51⟩, .procedure [] ⟨1, 3⟩ ⟨1, 6⟩ ⟨1, 11⟩⟩ :=
  bound_nodes.2.1

private theorem get?_outer :
    graph.get? outer = some ⟨⟨1, 9, 62⟩, .procedure [parameter] ⟨1, 3⟩ ⟨1, 7⟩ ⟨1, 16⟩⟩ :=
  bound_nodes.2.2.1

private theorem get?_body : graph.get? ⟨1, 11⟩ = some ⟨⟨1, 46, 51⟩, .block [⟨1, 10⟩] ⟨1, 3⟩⟩ :=
  bound_nodes.2.2.2.1

private theorem get?_use : graph.get? ⟨1, 10⟩ = some ⟨⟨1, 48, 49⟩, .name parameter⟩ :=
  bound_nodes.2.2.2.2.1

private theorem inner_uses_parameter : graph.Uses inner parameter := by
  refine ⟨⟨_, _, _, _, bound_nodes.2.2.2.2.2⟩, ⟨1, 10⟩, ⟨1, 48, 49⟩, ?_, get?_use⟩
  have hbody : graph.HasPart inner ⟨1, 11⟩ := ⟨_, get?_inner, List.mem_singleton_self _⟩
  have huse : graph.HasPart ⟨1, 11⟩ ⟨1, 10⟩ := ⟨_, get?_body, List.mem_singleton_self _⟩
  exact .head hbody (.single huse)

private theorem inner_owns_nothing (q : NodeId) (hreach : graph.Reaches inner q) :
    ¬ graph.Owns q parameter := by
  rintro ⟨span, params, returns, type, body, hq, x, hx, hwithin⟩
  rcases hreach.cases get?_inner with rfl | ⟨y, hy, hreach⟩
  · obtain ⟨-, rfl, -, -, rfl⟩ : span = ⟨1, 36, 51⟩ ∧ params = [] ∧ returns = ⟨1, 3⟩ ∧
        type = ⟨1, 6⟩ ∧ body = ⟨1, 11⟩ := by
      simpa using hq.symm.trans get?_inner
    obtain rfl := List.mem_singleton.mp hx
    rcases hwithin.cases get?_body with hself | ⟨y, hy, hwithin⟩
    · exact absurd hself (by decide)
    · obtain rfl := List.mem_singleton.mp hy
      exact absurd (hwithin.eq_of_leaf get?_use rfl) (by decide)
  · obtain rfl := List.mem_singleton.mp hy
    rcases hreach.cases get?_body with rfl | ⟨y, hy, hreach⟩
    · cases hq.symm.trans get?_body
    · obtain rfl := List.mem_singleton.mp hy
      rcases hreach.cases get?_use with rfl | ⟨y, hy, -⟩
      · cases hq.symm.trans get?_use
      · cases hy

end Capturing

/-- The parameter that `inner` uses is one of `outer`. -/
theorem SourceFile.bind_captures_enclosing_capturing :
    let g := Capturing.graph
    Capturing.bound.1 = .ok ⟨1, 19⟩ ∧ g.Uses Capturing.inner Capturing.parameter ∧
      ∃ q, g.Owns q Capturing.parameter ∧
        (g.Reaches Capturing.inner q ∨ g.Encloses q Capturing.inner) := by
  intro g
  have huses := Capturing.inner_uses_parameter
  refine ⟨Capturing.bound_ok, huses, ?_⟩
  have hall := capturing.bind_captures_enclosing {} {} 0 (Prod.ext Capturing.bound_ok rfl)
  exact (hall.1 _ _ _ _ _ _ Capturing.get?_inner).2 _ huses

/-- The procedure `inner` is a constant and uses a declaration that belongs neither to it nor to a
procedure below it: the parameter of `outer`, which stands around it. -/
theorem SourceFile.bind_accepts_capture :
    let g := Capturing.graph
    capturing.parse.failed = false ∧ Capturing.bound.1.isOk = true ∧
      g.isConstant Capturing.inner = .ok true ∧ g.Uses Capturing.inner Capturing.parameter ∧
      g.Owns Capturing.outer Capturing.parameter ∧ g.Encloses Capturing.outer Capturing.inner ∧
      ∀ q, g.Reaches Capturing.inner q → ¬ g.Owns q Capturing.parameter := by
  intro g
  refine ⟨by decide +kernel, by decide +kernel, ?_, Capturing.inner_uses_parameter, ?_, ?_,
    Capturing.inner_owns_nothing⟩
  · exact Outcome.bind_eq_ok.mpr ⟨_, (Arena.get_eq_ok_iff _ _ _).mpr Capturing.get?_inner, rfl⟩
  · exact ⟨_, _, _, _, _, Capturing.get?_outer, Capturing.parameter, by simp, .refl⟩
  · exact ⟨by decide, _, _, Capturing.get?_outer, Capturing.get?_inner, by decide⟩

end Keywordless
