import Keywordless.Proofs.BindRun

/-!
# Binding keeps the typing rules

Binding an expression leads to a node of the graph, and every node that is made on the way follows
its typing rule. There is one statement for each step of binding, from which the statement for
expressions follows by recursion over the syntax tree.
-/

namespace Keywordless

open BindM (Leads)

def Expr.IsParameter : Expr → Prop
  | .absent => False
  | .node h _ value _ _ => h.kind = .declaration ∧ value.isAbsent

namespace Expr

mutual

/-- Every part that the kind of a node needs is there, down to the leaves. -/
def Complete : Expr → Prop
  | absent => False
  | node h type value body list =>
    match h.kind with
    | .name | .intLit => True
    | .block | .structType => AllComplete list
    | .constant => (type.isAbsent ∨ Complete type) ∧ Complete value
    | .declaration =>
      (type.isAbsent ∨ Complete type) ∧ (value.isAbsent ∨ Complete value) ∧
        ¬ (type.isAbsent ∧ value.isAbsent)
    | .paren | .member => Complete value
    | .call => Complete value ∧ AllComplete list
    | .procedure =>
      Complete type ∧ Complete body ∧ AllComplete list ∧ ∀ e ∈ list, e.kind = .declaration
    | .procedureType => Complete type ∧ AllComplete list ∧ ∀ e ∈ list, e.kind = .declaration
    | .arrayType => Complete value ∧ Complete type
    | .sliceType | .multipointerType | .pointerType => Complete type
    | .invalid | .unlisted => False

def AllComplete : List Expr → Prop
  | [] => True
  | e :: rest => Complete e ∧ AllComplete rest

end

theorem allComplete_iff {list : List Expr} : AllComplete list ↔ ∀ e ∈ list, e.Complete := by
  induction list with
  | nil => simp [AllComplete]
  | cons e rest ih => rw [AllComplete, ih, List.forall_mem_cons]

end Expr

/-- Binding the part leads to a node; a parameter becomes a declaration without a value. -/
def Part.Binds (roots : List NodeId) (whole : Prop) (p : Part FrameTable) : Prop :=
  ∀ u scope hint, u.Sound roots → (∀ t ∈ hint, u.types.Issued t) →
    Leads roots whole u (p.bind scope hint) fun id v => v.graph.Issued id ∧
      (p.expr.IsParameter →
        ∃ span name type, v.graph.get? id = some ⟨span, .declaration name type none⟩)

theorem Part.Binds.of_whole {roots : List NodeId} {whole whole' : Prop} {p : Part FrameTable}
    (h : p.Binds roots whole) (himp : whole' → whole) : p.Binds roots whole' :=
  fun u scope hint hu hhint => (h u scope hint hu hhint).of_whole himp

namespace Binder

variable {roots : List NodeId} {whole : Prop} {u : Universe FrameTable}

private theorem evaluate_leads {id : NodeId} {span : Span} {type : TyId} (h : u.Sound roots)
    (hid : u.graph.Issued id) (hconstant : u.graph.isConstant id = .ok true)
    (htype : u.graph.typeOf id = .ok type) :
    Leads roots whole u (evaluate id span)
      fun value v => u = v ∧ value.Inhabits u.graph u.types type := by
  obtain ⟨outcome, houtcome, hvalue⟩ := h.evaluate hid hconstant htype
  refine Leads.ask_bind houtcome ?_
  cases outcome with
  | ok value => exact .pure h ⟨rfl, hvalue value rfl⟩
  | error reason => exact .fail h rfl fun _ => rfl

private theorem requireConstant_leads {id : NodeId} {problem : BindProblem} {span : Span}
    (h : u.Sound roots) (hid : u.graph.Issued id) (hreachable : problem.isReachable)
    (hproblem : problem.isRegular) :
    Leads roots whole u (requireConstant id problem span)
      fun _ v => u = v ∧ u.graph.isConstant id = .ok true := by
  refine .isConstant_bind h hid fun b hb => ?_
  cases b with
  | true => exact .pure h ⟨rfl, hb⟩
  | false => exact .fail h hreachable fun _ => hproblem

private theorem primitive_of_kind {t : Ty} {p : Primitive} (h : t.kind = .primitive p) :
    t = .primitive p := by
  cases t with
  | primitive q =>
    obtain rfl := TyKind.primitive.inj h
    rfl
  | wrapped w elem => cases h
  | procedure params result => cases h

private theorem requireTypeOfTypes_leads {type : TyId} {span : Span} {use : TypeUse}
    (h : u.Sound roots) (htype : u.types.Issued type) :
    Leads roots whole u (requireTypeOfTypes type span use)
      fun _ v => u = v ∧ type = u.types.primitive .type := by
  obtain ⟨t, ht⟩ := htype
  refine .describe_bind ht ?_
  split
  · next hkind =>
    rw [primitive_of_kind hkind] at ht
    exact .pure h ⟨rfl, (h.types.primitive_iff _ _).mp ht⟩
  · exact .typeText_bind h ⟨t, ht⟩ fun _ => .fail h rfl fun _ => rfl

private theorem typeValue_leads {id : NodeId} {span : Span} {use : TypeUse} (h : u.Sound roots)
    (hid : u.graph.Issued id) :
    Leads roots whole u (typeValue id span use)
      fun denoted v => u = v ∧ u.types.Issued denoted := by
  refine .bind (requireConstant_leads h hid rfl rfl) ?_
  rintro _ _ - - ⟨rfl, hconstant⟩
  refine .typeOf_bind h hid fun type htype hissued => ?_
  refine .bind (requireTypeOfTypes_leads h hissued) ?_
  rintro _ _ - - ⟨rfl, rfl⟩
  refine .bind (evaluate_leads h hid hconstant htype) ?_
  rintro value _ - - ⟨rfl, hvalue⟩
  obtain ⟨denoted, rfl⟩ := h.eq_type hvalue
  exact .pure h ⟨rfl, hvalue.2⟩

private theorem typeDenoted_leads {p : Part FrameTable} {scope : ScopeId} {use : TypeUse}
    (hp : p.Binds roots whole) (h : u.Sound roots) :
    Leads roots whole u (typeDenoted p scope use) fun denoted v => v.types.Issued denoted := by
  refine .bind (.openScope h) fun inner v _ hv _ => ?_
  refine .primitive_bind ?_
  refine .bind (hp v inner _ hv ?_) fun id w _ hw hid => ?_
  · rintro t ⟨⟩
    exact ⟨_, hv.types.get?_primitive .type⟩
  · refine (typeValue_leads hw hid.1).imp ?_
    rintro denoted _ - ⟨rfl, hdenoted⟩
    exact hdenoted

private theorem ascription_leads {head : ExprHead} {type : Part FrameTable} {scope : ScopeId}
    (hp : type.expr.isAbsent = false → type.Binds roots whole) (h : u.Sound roots) :
    Leads roots whole u (ascription head type scope) fun annotated v =>
      (∀ t ∈ annotated, v.types.Issued t) ∧ (annotated = none → type.expr.isAbsent = true) := by
  unfold ascription
  split
  · next habsent => exact .pure h ⟨by simp, fun _ => habsent⟩
  · next habsent =>
    refine .bind (typeDenoted_leads (hp (by simpa using habsent)) h) fun denoted v _ hv hd => ?_
    exact .pure hv ⟨by simpa using hd, by simp⟩

private theorem blockEntries_leads {list : List (Part FrameTable)} {scope : ScopeId} {hint : Hint}
    (hlist : ∀ p ∈ list, p.Binds roots whole) (h : u.Sound roots)
    (hhint : ∀ t ∈ hint, u.types.Issued t) :
    Leads roots whole u (blockEntries list scope hint)
      fun ids v => ∀ id ∈ ids, v.graph.Issued id := by
  induction list generalizing u with
  | nil => exact .pure h (by simp)
  | cons p rest ih =>
    have hp := hlist p List.mem_cons_self
    cases rest with
    | nil =>
      refine .bind (hp u scope hint h hhint) fun id v _ hv hid => ?_
      exact .pure hv (by simpa using hid.1)
    | cons q rest =>
      refine .bind (hp u scope none h (by simp)) fun id v hgrow hv hid => ?_
      have hhint' := hgrow.hint hhint
      refine .bind (ih (fun r hr => hlist r (List.mem_cons_of_mem _ hr)) hv hhint') ?_
      intro ids w hgrow' hw hids
      exact .pure hw (List.forall_mem_cons.mpr ⟨hgrow'.graph.issued hid.1, hids⟩)

private theorem hintedPrimitive_leads {p : Primitive} {hint : Hint} (h : u.Sound roots)
    (hhint : ∀ t ∈ hint, u.types.Issued t) :
    Leads roots whole u (hintedPrimitive p hint) fun id v => u = v ∧ id = u.types.primitive p := by
  have hplain : Leads roots whole u (BindM.primitive p)
      fun id v => u = v ∧ id = u.types.primitive p := by
    rintro s rfl
    exact ⟨.refl _, h, rfl, rfl⟩
  unfold hintedPrimitive
  cases hint with
  | none => exact hplain
  | some id =>
    obtain ⟨t, ht⟩ := hhint id rfl
    refine .describe_bind ht ?_
    split
    · next hkind =>
      rw [primitive_of_kind hkind] at ht
      exact .pure h ⟨rfl, (h.types.primitive_iff _ _).mp ht⟩
    · exact hplain

private theorem blockType_leads {ids : List NodeId} {hint : Hint} (h : u.Sound roots)
    (hids : ∀ id ∈ ids, u.graph.Issued id) (hhint : ∀ t ∈ hint, u.types.Issued t) :
    Leads roots whole u (blockType ids hint) fun type v => u = v ∧ u.types.Issued type ∧
      match ids.getLast? with
      | some last => u.graph.typeOf last = .ok type
      | none => type = u.types.primitive .void := by
  unfold blockType
  cases hlast : ids.getLast? with
  | some last =>
    obtain ⟨type, htype, hissued⟩ := h.typeOf (hids last (List.mem_of_getLast? hlast))
    exact .ask h htype ⟨rfl, hissued, htype⟩
  | none =>
    refine (hintedPrimitive_leads h hhint).imp ?_
    rintro _ _ - ⟨rfl, rfl⟩
    exact ⟨rfl, ⟨_, h.types.get?_primitive .void⟩, rfl⟩

private theorem block_leads {head : ExprHead} {list : List (Part FrameTable)} {scope : ScopeId}
    {hint : Hint} (hlist : ∀ p ∈ list, p.Binds roots whole) (h : u.Sound roots)
    (hhint : ∀ t ∈ hint, u.types.Issued t) :
    Leads roots whole u (block head list scope hint) fun id v => v.graph.Issued id := by
  refine .bind (.openScope h) fun inner v hgrow hv _ => ?_
  have hhint' := hgrow.hint hhint
  refine .bind (blockEntries_leads hlist hv hhint') fun ids w hgrow' hw hids => ?_
  have hhint'' := hgrow'.hint hhint'
  refine .bind (blockType_leads hw hids hhint'') ?_
  rintro type _ - - ⟨rfl, hissued, htype⟩
  exact .make_issued hw ⟨False.elim, fun _ => htype⟩ hids fun _ => hissued

private theorem requireAscribed_leads {annotated : Hint} {actual : TyId}
    {problem : Bytes → Bytes → BindProblem} {type value : Part FrameTable} (h : u.Sound roots)
    (hannotated : ∀ t ∈ annotated, u.types.Issued t) (hactual : u.types.Issued actual)
    (hreachable : ∀ a b, a ≠ b → (problem a b).isReachable)
    (hproblem : ∀ a b, (problem a b).isRegular) :
    Leads roots whole u (requireAscribed annotated actual problem type value)
      fun _ v => u = v ∧ ∀ t ∈ annotated, actual = t := by
  cases annotated with
  | none => exact .pure h ⟨rfl, by simp⟩
  | some declared =>
    unfold requireAscribed
    dsimp only
    split
    · next heq => exact .pure h ⟨rfl, by simpa using heq⟩
    · next hne =>
      refine .typeTexts_bind h (hannotated declared rfl) hactual (Ne.symm hne) fun a b hab => ?_
      exact .fail h (hreachable a b hab) fun _ => hproblem a b

private theorem edges_of_inhabits {g : Graph} {types : TypeStore} {name : Bytes} {type : TyId}
    {value : Value} (hvalue : value.Inhabits g types type) :
    ∀ e ∈ (Shape.constant name type value).edges, g.Issued e := by
  cases value with
  | procedure id =>
    obtain ⟨span, params, returns, body, hid⟩ := hvalue
    intro e he
    obtain rfl := List.mem_singleton.mp he
    exact ⟨_, hid⟩
  | invalid | type _ | int _ => simp [Shape.edges]

private theorem constant_leads {head : ExprHead} {type value : Part FrameTable} {scope : ScopeId}
    {hint : Hint} (htype : type.expr.isAbsent = false → type.Binds roots whole)
    (hvalue : value.Binds roots whole) (h : u.Sound roots) (hhint : ∀ t ∈ hint, u.types.Issued t) :
    Leads roots whole u (constant head type value scope hint) fun id v => v.graph.Issued id := by
  refine .bind (ascription_leads htype h) fun annotated v hgrow hv hannotated => ?_
  refine .bind (.openScope hv) fun inner w hgrow' hw _ => ?_
  have hexpected (t : TyId) (ht : t ∈ (annotated <|> hint)) : w.types.Issued t := by
    cases annotated with
    | some a => exact hgrow'.types.issued (hannotated.1 t ht)
    | none => exact hgrow'.types.issued (hgrow.types.issued (hhint t ht))
  refine .bind (hvalue w inner _ hw hexpected) fun id x hgrow'' hx hid => ?_
  refine .bind (requireConstant_leads hx hid.1 rfl rfl) ?_
  rintro _ _ - - ⟨rfl, hconstant⟩
  refine .typeOf_bind hx hid.1 fun actual hactual hissued => ?_
  have hannotated' := (hgrow'.trans hgrow'').hint hannotated.1
  refine .bind (requireAscribed_leads hx hannotated' hissued (fun _ _ => bne_iff_ne.mpr)
    fun _ _ => rfl) ?_
  rintro _ _ - - ⟨rfl, -⟩
  refine .bind (evaluate_leads hx hid.1 hconstant hactual) ?_
  rintro result _ - - ⟨rfl, hresult⟩
  refine .bind (.make hx hresult (edges_of_inhabits hresult) fun _ => hissued) ?_
  intro made y _ hy hmade
  refine .bind (.declare hy ⟨_, hmade, nofun⟩) fun _ z hlast hz _ => ?_
  exact .pure hz (hlast.graph.issued ⟨_, hmade⟩)

private theorem initialValue_leads {head : ExprHead} {type value : Part FrameTable}
    {scope : ScopeId}
    {annotated : Hint} (hvalue : value.expr.isAbsent = false → value.Binds roots whole)
    (h : u.Sound roots) (hannotated : ∀ t ∈ annotated, u.types.Issued t) :
    Leads roots whole u (initialValue head type value scope annotated) fun init v =>
      (init = none ↔ value.expr.isAbsent = true) ∧
      ∀ id ∈ init, v.graph.Issued id ∧ ∀ t ∈ annotated, v.graph.typeOf id = .ok t := by
  unfold initialValue
  split
  · next habsent => exact .pure h ⟨by simpa using habsent, by simp⟩
  · next habsent =>
    refine .bind (.openScope h) fun inner v hgrow hv _ => ?_
    have hannotated' := hgrow.hint hannotated
    have hbinds := hvalue (by simpa using habsent)
    refine .bind (hbinds v inner annotated hv hannotated') fun id w hgrow' hw hid => ?_
    have hannotated'' := hgrow'.hint hannotated'
    refine .typeOf_bind hw hid.1 fun actual hactual hissued => ?_
    refine .bind (requireAscribed_leads hw hannotated'' hissued (fun _ _ => bne_iff_ne.mpr)
      fun _ _ => rfl) ?_
    rintro _ _ - - ⟨rfl, hagrees⟩
    refine .pure hw ⟨by simpa using habsent, ?_⟩
    rintro _ ⟨⟩
    exact ⟨hid.1, fun t ht => hagrees t ht ▸ hactual⟩

private theorem declaredType_leads {head : ExprHead} {annotated hint : Hint} {init : Option NodeId}
    (h : u.Sound roots) (hannotated : ∀ t ∈ annotated, u.types.Issued t)
    (hinit : ∀ id ∈ init, u.graph.Issued id ∧ ∀ t ∈ annotated, u.graph.typeOf id = .ok t)
    (hhint : ∀ t ∈ hint, u.types.Issued t) (hwhole : whole → ¬ (annotated = none ∧ init = none)) :
    Leads roots whole u (declaredType head annotated init hint) fun type v => u = v ∧
      u.types.Issued type ∧ ∀ id ∈ init, u.graph.typeOf id = .ok type := by
  cases annotated with
  | some a => exact .pure h ⟨rfl, hannotated a rfl, fun id hid => (hinit id hid).2 a rfl⟩
  | none =>
    cases init with
    | some id =>
      obtain ⟨type, htype, hissued⟩ := h.typeOf (hinit id rfl).1
      exact .ask h htype ⟨rfl, hissued, by rintro _ ⟨⟩; exact htype⟩
    | none =>
      cases hint with
      | some t => exact .pure h ⟨rfl, hhint t rfl, by simp⟩
      | none => exact .fail h rfl fun hw => absurd ⟨rfl, rfl⟩ (hwhole hw)

private theorem declaration_leads {head : ExprHead} {type value : Part FrameTable} {scope : ScopeId}
    {hint : Hint} (htype : type.expr.isAbsent = false → type.Binds roots whole)
    (hvalue : value.expr.isAbsent = false → value.Binds roots whole) (h : u.Sound roots)
    (hhint : ∀ t ∈ hint, u.types.Issued t)
    (hwhole : whole → ¬ (type.expr.isAbsent = true ∧ value.expr.isAbsent = true)) :
    Leads roots whole u (declaration head type value scope hint) fun id v =>
      ∃ span name type init, v.graph.get? id = some ⟨span, .declaration name type init⟩ ∧
        (value.expr.isAbsent = true → init = none) := by
  refine .bind (ascription_leads htype h) fun annotated v hgrow hv hannotated => ?_
  refine .bind (initialValue_leads hvalue hv hannotated.1) fun init w hgrow' hw hinit => ?_
  have hhint' := (hgrow.trans hgrow').hint hhint
  have hannotated' := hgrow'.hint hannotated.1
  -- A complete declaration has a type or a value, so that a hint is never needed.
  have hneeded (hw : whole) : ¬ (annotated = none ∧ init = none) := fun hnone =>
    hwhole hw ⟨hannotated.2 hnone.1, hinit.1.mp hnone.2⟩
  refine .bind (declaredType_leads hw hannotated' hinit.2 hhint' hneeded) ?_
  rintro own _ - - ⟨rfl, hissued, htyped⟩
  have hedges : ∀ e ∈ (Shape.declaration head.name own init).edges, w.graph.Issued e := by
    intro e he
    exact (hinit.2 e (Option.mem_toList.mp he)).1
  refine .bind (.make hw htyped hedges fun _ => hissued) fun made x _ hx hmade => ?_
  refine .bind (.declare hx ⟨_, hmade, nofun⟩) fun _ y hgrow'' hy _ => ?_
  exact .pure hy ⟨_, _, _, _, hgrow''.graph.kept hmade, hinit.1.mpr⟩

private theorem name_leads {head : ExprHead} {scope : ScopeId} (h : u.Sound roots) :
    Leads roots whole u (name head scope) fun id v => v.graph.Issued id := by
  refine .visible?_bind h fun found hfound => ?_
  cases found with
  | none => exact .fail h rfl fun _ => rfl
  | some target =>
    obtain ⟨node, hnode⟩ := hfound target rfl
    refine .ask_bind ((Arena.get_eq_ok_iff _ _ _).mpr hnode) ?_
    refine .make_issued h ⟨node, hnode⟩ ?_ fun hname => absurd rfl (hname target)
    intro e he
    obtain rfl := List.mem_singleton.mp he
    exact ⟨node, hnode⟩

private theorem literalType_leads {hint : Hint} (h : u.Sound roots)
    (hhint : ∀ t ∈ hint, u.types.Issued t) :
    Leads roots whole u (literalType hint)
      fun typed v => u = v ∧ typed.1 = u.types.primitive typed.2 ∧ typed.2.isInteger := by
  have hplain : Leads roots whole u (do return (← BindM.primitive .int, Primitive.int))
      fun typed v => u = v ∧ typed.1 = u.types.primitive typed.2 ∧ typed.2.isInteger :=
    .primitive_bind (.pure h ⟨rfl, rfl, rfl⟩)
  cases hint with
  | none => exact hplain
  | some id =>
    obtain ⟨t, ht⟩ := hhint id rfl
    refine .describe_bind ht ?_
    cases t with
    | primitive p =>
      dsimp only
      split
      · next hinteger => exact .pure h ⟨rfl, (h.types.primitive_iff _ _).mp ht, hinteger⟩
      · exact hplain
    | wrapped w elem => exact hplain
    | procedure params result => exact hplain

private theorem intLit_leads {head : ExprHead} {hint : Hint} (h : u.Sound roots)
    (hhint : ∀ t ∈ hint, u.types.Issued t) :
    Leads roots whole u (intLit head hint) fun id v => v.graph.Issued id := by
  refine .bind (literalType_leads h hhint) ?_
  rintro ⟨type, p⟩ _ - - ⟨rfl, htype, hinteger⟩
  have hissued : u.types.Issued type := ⟨_, (h.types.primitive_iff _ _).mpr htype⟩
  have hoverflow : Leads roots whole u
      (do BindM.fail (.integerOverflow head.name (← BindM.typeText type)) head.span)
      fun id v => v.graph.Issued id :=
    .typeText_bind h hissued fun _ => .fail h rfl fun _ => rfl
  dsimp only
  split
  · split
    · next n _ hn =>
      have hvalue : (Value.int n).Inhabits u.graph u.types type := ⟨p, hinteger, htype, hn⟩
      exact .make_issued h hvalue (edges_of_inhabits hvalue) fun _ => hissued
    · exact hoverflow
  · exact hoverflow

private theorem member_leads {head : ExprHead} {value : Part FrameTable} {scope : ScopeId}
    (hvalue : value.Binds roots whole) (h : u.Sound roots) :
    Leads roots whole u (member head value scope) fun id v => v.graph.Issued id := by
  refine .bind (hvalue u scope none h (by simp)) fun operand v _ hv hid => ?_
  refine .typeOf_bind hv hid.1 fun type htype hissued => ?_
  obtain ⟨t, ht⟩ := hissued
  refine .describe_bind ht ?_
  split
  · next elem =>
    have helem : v.types.Issued elem :=
      (hv.types.components_older ht elem (by simp [Ty.components])).1
    split
    · refine .bind (.wrap hv helem) fun own w hgrow hw hown => ?_
      refine .make_issued hw ?_ ?_ fun _ => ⟨_, hown⟩
      · exact ⟨type, elem, Graph.typeOf_kept hgrow.graph htype, hgrow.types.kept ht,
          .inl ⟨rfl, hown⟩⟩
      · simpa [Shape.edges] using hgrow.graph.issued hid.1
    · refine .primitive_bind ?_
      refine .make_issued hv ?_ ?_ fun _ => ⟨_, hv.types.get?_primitive .uint⟩
      · exact ⟨type, elem, htype, ht, .inr ⟨rfl, rfl⟩⟩
      · simpa [Shape.edges] using hid.1
    · exact .typeText_bind hv ⟨_, ht⟩ fun _ => .fail hv rfl fun _ => rfl
  · exact .typeText_bind hv ⟨_, ht⟩ fun _ => .fail hv rfl fun _ => rfl

private theorem requireParameter_leads {e : Expr} (h : u.Sound roots)
    (hwhole : whole → e.kind = .declaration) :
    Leads roots whole u (requireParameter e) fun _ v => u = v ∧ e.IsParameter := by
  cases e with
  | absent => exact .throw h rfl fun hw => absurd (hwhole hw) (by decide)
  | node head type value body list =>
    unfold requireParameter
    dsimp only
    split
    · next hkind => exact .fail h rfl fun hw => absurd (hwhole hw) hkind
    · next hkind =>
      split
      · next habsent => exact .pure h ⟨rfl, not_not.mp hkind, habsent⟩
      · exact .fail h rfl fun _ => rfl

private theorem parameters_leads {list : List (Part FrameTable)} {scope : ScopeId}
    {suggested : List TyId} (hlist : ∀ p ∈ list, p.Binds roots whole)
    (hwhole : whole → ∀ p ∈ list, p.expr.kind = .declaration) (h : u.Sound roots)
    (hsuggested : ∀ t ∈ suggested, u.types.Issued t) :
    Leads roots whole u (parameters list scope suggested) fun params v => ∀ p ∈ params,
      v.types.Issued p.2 ∧
        ∃ span name, v.graph.get? p.1 = some ⟨span, .declaration name p.2 none⟩ := by
  induction list generalizing u suggested with
  | nil => exact .pure h (by simp)
  | cons p rest ih =>
    refine .bind (requireParameter_leads h fun hw => hwhole hw p List.mem_cons_self) ?_
    rintro _ _ - - ⟨rfl, hparameter⟩
    have hhint (t : TyId) (ht : t ∈ suggested.head?) : u.types.Issued t :=
      hsuggested t (List.mem_of_mem_head? ht)
    refine .bind (hlist p List.mem_cons_self u scope _ h hhint) fun id v hgrow hv hid => ?_
    obtain ⟨span, name, own, hnode⟩ := hid.2 hparameter
    refine .typeOf_bind hv hid.1 fun type htype hissued => ?_
    obtain rfl : own = type :=
      Except.ok.inj ((Graph.typeOf_declaration hnode).symm.trans htype)
    have hrest := ih (fun q hq => hlist q (List.mem_cons_of_mem _ hq))
      (fun hw q hq => hwhole hw q (List.mem_cons_of_mem _ hq)) hv
      fun t (ht : t ∈ suggested.tail) => hgrow.types.issued (hsuggested t (List.mem_of_mem_tail ht))
    refine .bind hrest fun params w hgrow' hw hparams => ?_
    refine .pure hw (List.forall_mem_cons.mpr ⟨⟨hgrow'.types.issued hissued, ?_⟩, hparams⟩)
    exact ⟨span, name, hgrow'.graph.kept hnode⟩

private theorem suggestedParams_leads {hint : Hint} (h : u.Sound roots)
    (hhint : ∀ t ∈ hint, u.types.Issued t) :
    Leads roots whole u (suggestedParams hint)
      fun suggested v => u = v ∧ ∀ t ∈ suggested, u.types.Issued t := by
  cases hint with
  | none => exact .pure h ⟨rfl, by simp⟩
  | some id =>
    obtain ⟨t, ht⟩ := hhint id rfl
    refine .describe_bind ht (.pure h ⟨rfl, ?_⟩)
    intro p hp
    cases t with
    | procedure params result =>
      exact (h.types.components_older ht p (List.mem_append_left _ hp)).1
    | primitive _ | wrapped _ _ => simp [Ty.params] at hp

private theorem signatureType_leads {params : List TyId} {returns : TyId} {hint : Hint}
    (h : u.Sound roots)
    (hparams : ∀ p ∈ params, u.types.Issued p) (hreturns : u.types.Issued returns)
    (hhint : ∀ t ∈ hint, u.types.Issued t) :
    Leads roots whole u (signatureType params returns hint)
      fun own v => v.types.get? own = some (.procedure params returns) := by
  unfold signatureType
  cases hint with
  | none => exact .procedureType h hparams hreturns
  | some id =>
    obtain ⟨t, ht⟩ := hhint id rfl
    have hasked : u.types.isProcedure id params returns = .ok (t == .procedure params returns) := by
      simp only [TypeStore.isProcedure, (Arena.get_eq_ok_iff _ _ _).mpr ht]
      rfl
    refine .ask_bind hasked ?_
    split
    · next heq =>
      rw [beq_iff_eq.mp heq] at ht
      exact .pure h ht
    · exact .procedureType h hparams hreturns

private theorem requireReturned_leads {actual returns : TyId} {type body : Part FrameTable}
    (h : u.Sound roots) (hactual : u.types.Issued actual) (hreturns : u.types.Issued returns) :
    Leads roots whole u (requireReturned actual returns type body)
      fun _ v => u = v ∧ actual = returns := by
  unfold requireReturned
  split
  · next heq => exact .pure h ⟨rfl, heq⟩
  · next hne =>
    refine .typeTexts_bind h hactual hreturns hne fun a b hab => ?_
    exact .fail h (bne_iff_ne.mpr hab) fun _ => rfl

private theorem procedure_leads {head : ExprHead} {type body : Part FrameTable}
    {list : List (Part FrameTable)} {scope : ScopeId} {hint : Hint}
    (htype : type.Binds roots whole) (hbody : body.Binds roots whole)
    (hlist : ∀ p ∈ list, p.Binds roots whole)
    (hwhole : whole → ∀ p ∈ list, p.expr.kind = .declaration) (h : u.Sound roots)
    (hhint : ∀ t ∈ hint, u.types.Issued t) :
    Leads roots whole u (procedure head type body list scope hint)
      fun id v => v.graph.Issued id := by
  refine .bind (.openScope h) fun inner v hgrow hv _ => ?_
  have hhint' := hgrow.hint hhint
  refine .bind (suggestedParams_leads hv hhint') ?_
  rintro suggested _ - - ⟨rfl, hsuggested⟩
  refine .bind (parameters_leads hlist hwhole hv hsuggested) fun params w hgrow₁ hw hparams => ?_
  refine .bind (typeDenoted_leads htype hw) fun returns x hgrow₂ hx hreturns => ?_
  have hexpected (t : TyId) (ht : t ∈ some returns) : x.types.Issued t := by
    obtain rfl := Option.some.inj ht
    exact hreturns
  refine .bind (hbody x inner (some returns) hx hexpected) fun bodyId y hgrow₃ hy hbodyId => ?_
  -- Binding the body may add nodes and types; what was found before is still there after it.
  have hreturns' := hgrow₃.types.issued hreturns
  refine .typeOf_bind hy hbodyId.1 fun actual hactual hissued => ?_
  refine .bind (requireReturned_leads hy hissued hreturns') ?_
  rintro _ _ - - ⟨rfl, rfl⟩
  have hgrow' := hgrow₂.trans hgrow₃
  have hparams' (t : TyId) (ht : t ∈ params.map Prod.snd) : y.types.Issued t := by
    obtain ⟨p, hp, rfl⟩ := List.mem_map.mp ht
    exact hgrow'.types.issued (hparams p hp).1
  have hhint'' := (hgrow₁.trans hgrow').hint hhint'
  refine .bind (signatureType_leads hy hparams' hreturns' hhint'') fun own z hgrow₄ hz hown => ?_
  have hdeclared (p : NodeId × TyId) (hp : p ∈ params) :
      ∃ span name, z.graph.get? p.1 = some ⟨span, .declaration name p.2 none⟩ := by
    obtain ⟨-, span, name, hnode⟩ := hparams p hp
    exact ⟨span, name, (hgrow'.trans hgrow₄).graph.kept hnode⟩
  refine .make_issued hz ⟨params.map Prod.snd, hown, ?_, ?_⟩ ?_ fun _ => ⟨_, hown⟩
  · rw [List.forall₂_map_left_iff, List.forall₂_map_right_iff, List.forall₂_same]
    exact hdeclared
  · exact Graph.typeOf_kept hgrow₄.graph hactual
  · intro e he
    obtain he | he := List.mem_append.mp he
    · obtain ⟨p, hp, rfl⟩ := List.mem_map.mp he
      obtain ⟨span, name, hnode⟩ := hdeclared p hp
      exact ⟨_, hnode⟩
    · obtain rfl := List.mem_singleton.mp he
      exact hgrow₄.graph.issued hbodyId.1

private theorem conversionArguments_leads {list : List (Part FrameTable)} {scope : ScopeId}
    {hint : Hint} (hlist : ∀ p ∈ list, p.Binds roots whole) (h : u.Sound roots)
    (hhint : ∀ t ∈ hint, u.types.Issued t) :
    Leads roots whole u (conversionArguments list scope hint)
      fun ids v => ∀ id ∈ ids, v.graph.Issued id := by
  induction list generalizing u with
  | nil => exact .pure h (by simp)
  | cons p rest ih =>
    refine .bind (.openScope h) fun inner v hgrow hv _ => ?_
    have hhint' := hgrow.hint hhint
    refine .bind (hlist p List.mem_cons_self v inner hint hv hhint') fun id w hgrow' hw hid => ?_
    have hrest := ih (fun q hq => hlist q (List.mem_cons_of_mem _ hq)) hw (hgrow'.hint hhint')
    refine .bind hrest fun ids x hgrow'' hx hids => ?_
    exact .pure hx (List.forall_mem_cons.mpr ⟨hgrow''.graph.issued hid.1, hids⟩)

private theorem conversion_leads {head : ExprHead} {operand : NodeId} {value : Part FrameTable}
    {list : List (Part FrameTable)} {scope : ScopeId} (hlist : ∀ p ∈ list, p.Binds roots whole)
    (h : u.Sound roots) (hoperand : u.graph.Issued operand) :
    Leads roots whole u (conversion head operand value list scope)
      fun id v => v.graph.Issued id := by
  refine .bind (typeValue_leads h hoperand) ?_
  rintro target _ - - ⟨rfl, htarget⟩
  have hhint (t : TyId) (ht : t ∈ if list.length = 1 then some target else none) :
      u.types.Issued t := by
    split at ht
    · obtain rfl := Option.some.inj ht
      exact htarget
    · cases ht
  refine .bind (conversionArguments_leads hlist h hhint) fun args v hgrow hv hargs => ?_
  have htarget' := hgrow.types.issued htarget
  split
  · next arg =>
    have harg := hargs arg List.mem_cons_self
    refine .typeOf_bind hv harg fun source hsource hissued => ?_
    split
    · exact .pure hv harg
    · next hne =>
      obtain ⟨t, ht⟩ := htarget'
      obtain ⟨r, hr⟩ := hissued
      refine .describe_bind ht (.describe_bind hr ?_)
      dsimp only
      split
      · next hkinds =>
        rw [primitive_of_kind hkinds.1] at ht
        rw [primitive_of_kind hkinds.2] at hr
        obtain rfl := (hv.types.primitive_iff _ _).mp ht
        obtain rfl := (hv.types.primitive_iff _ _).mp hr
        exact .make_issued hv ⟨rfl, arg, rfl, hsource⟩ (by simpa [Shape.edges] using harg)
          fun _ => ⟨_, ht⟩
      · refine .typeTexts_bind hv ⟨r, hr⟩ ⟨t, ht⟩ hne fun a b hab => ?_
        exact .fail hv (bne_iff_ne.mpr hab) fun _ => rfl
  · exact .typeText_bind hv htarget' fun _ => .fail hv rfl fun _ => rfl

private theorem requireArgument_leads {position : Nat} {actual expected : TyId}
    {p : Part FrameTable}
    (h : u.Sound roots) (hactual : u.types.Issued actual) (hexpected : u.types.Issued expected) :
    Leads roots whole u (requireArgument position actual expected p)
      fun _ v => u = v ∧ actual = expected := by
  unfold requireArgument
  split
  · next heq => exact .pure h ⟨rfl, heq⟩
  · next hne =>
    refine .typeTexts_bind h hactual hexpected hne fun a b hab => ?_
    exact .fail h (bne_iff_ne.mpr hab) fun _ => rfl

private theorem invocationArguments_leads {list : List (Part FrameTable)} {params : List TyId}
    {position : Nat} {scope : ScopeId} (hlist : ∀ p ∈ list, p.Binds roots whole)
    (hlength : list.length = params.length) (h : u.Sound roots)
    (hparams : ∀ t ∈ params, u.types.Issued t) :
    Leads roots whole u (invocationArguments position list params scope) fun args v =>
      (∀ arg ∈ args, v.graph.Issued arg) ∧
        List.Forall₂ (fun arg param => v.graph.typeOf arg = .ok param) args params := by
  induction list generalizing u params position with
  | nil =>
    obtain rfl := List.length_eq_zero_iff.mp hlength.symm
    exact .pure h ⟨by simp, .nil⟩
  | cons p rest ih =>
    cases params with
    | nil => cases hlength
    | cons expected params =>
      refine .bind (.openScope h) fun inner v hgrow hv _ => ?_
      have hparams' (t : TyId) (ht : t ∈ expected :: params) : v.types.Issued t :=
        hgrow.types.issued (hparams t ht)
      have hhint (t : TyId) (ht : t ∈ some expected) : v.types.Issued t := by
        obtain rfl := Option.some.inj ht
        exact hparams' _ List.mem_cons_self
      refine .bind (hlist p List.mem_cons_self v inner _ hv hhint) fun id w hgrow' hw hid => ?_
      have hparams'' (t : TyId) (ht : t ∈ expected :: params) : w.types.Issued t :=
        hgrow'.types.issued (hparams' t ht)
      refine .typeOf_bind hw hid.1 fun actual hactual hissued => ?_
      refine .bind (requireArgument_leads hw hissued (hparams'' _ List.mem_cons_self)) ?_
      rintro _ _ - - ⟨rfl, rfl⟩
      refine .bind (ih (fun q hq => hlist q (List.mem_cons_of_mem _ hq)) (Nat.succ.inj hlength) hw
        fun t ht => hparams'' t (List.mem_cons_of_mem _ ht)) fun args x hgrow'' hx hargs => ?_
      refine .pure hx ⟨List.forall_mem_cons.mpr ⟨hgrow''.graph.issued hid.1, hargs.1⟩, ?_⟩
      exact .cons (Graph.typeOf_kept hgrow''.graph hactual) hargs.2

private theorem invocation_leads {head : ExprHead} {operand : NodeId}
    {list : List (Part FrameTable)} {params : List TyId} {type result : TyId} {scope : ScopeId}
    (hlist : ∀ p ∈ list, p.Binds roots whole) (h : u.Sound roots)
    (hoperand : u.graph.Issued operand) (htype : u.graph.typeOf operand = .ok type)
    (hsignature : u.types.get? type = some (.procedure params result)) :
    Leads roots whole u (invocation head operand list params result scope)
      fun id v => v.graph.Issued id := by
  have hcomponent (t : TyId) (ht : t ∈ params ++ [result]) : u.types.Issued t :=
    (h.types.components_older hsignature t ht).1
  unfold invocation
  split
  · next hlength =>
    have hparams (t : TyId) (ht : t ∈ params) := hcomponent t (List.mem_append_left _ ht)
    refine .bind (invocationArguments_leads hlist hlength h hparams) fun args v hgrow hv hargs => ?_
    have hresult : v.types.Issued result := hgrow.types.issued (hcomponent result (by simp))
    refine .make_issued hv ⟨type, params, ?_, hgrow.types.kept hsignature, hargs.2⟩ ?_
      fun _ => hresult
    · exact Graph.typeOf_kept hgrow.graph htype
    · exact List.forall_mem_cons.mpr ⟨hgrow.graph.issued hoperand, hargs.1⟩
  · refine .typeOf_bind h hoperand fun _ _ hissued => ?_
    exact .typeText_bind h hissued fun _ => .fail h rfl fun _ => rfl

private theorem call_leads {head : ExprHead} {value : Part FrameTable}
    {list : List (Part FrameTable)}
    {scope : ScopeId} (hvalue : value.Binds roots whole) (hlist : ∀ p ∈ list, p.Binds roots whole)
    (h : u.Sound roots) :
    Leads roots whole u (call head value list scope) fun id v => v.graph.Issued id := by
  refine .bind (hvalue u scope none h (by simp)) fun operand v _ hv hid => ?_
  refine .typeOf_bind hv hid.1 fun type htype hissued => ?_
  obtain ⟨t, ht⟩ := hissued
  refine .describe_bind ht ?_
  split
  · exact conversion_leads hlist hv hid.1
  · exact invocation_leads hlist hv hid.1 htype ht
  · exact .typeText_bind hv ⟨_, ht⟩ fun _ => .fail hv rfl fun _ => rfl

private theorem wrapperType_leads {w : Wrapper} {head : ExprHead} {type : Part FrameTable}
    {scope : ScopeId} {hint : Hint} (htype : type.Binds roots whole) (h : u.Sound roots)
    (hhint : ∀ t ∈ hint, u.types.Issued t) :
    Leads roots whole u (wrapperType w head type scope hint) fun id v => v.graph.Issued id := by
  refine .bind (typeDenoted_leads htype h) fun elem v hgrow hv helem => ?_
  refine .bind (.wrap hv helem) fun denoted x hgrow' hx hdenoted => ?_
  have hhint' := (hgrow.trans hgrow').hint hhint
  refine .bind (hintedPrimitive_leads hx hhint') ?_
  rintro _ _ - - ⟨rfl, rfl⟩
  exact .make_issued hx ⟨rfl, _, hdenoted⟩ (by simp [Shape.edges])
    fun _ => ⟨_, hx.types.get?_primitive .type⟩

/-- Binding a node leads to a node of the graph if binding its parts does. -/
theorem expr_leads {head : ExprHead} {type value body : Part FrameTable}
    {list : List (Part FrameTable)} {scope : ScopeId} {hint : Hint}
    (htype : type.Binds roots type.expr.Complete) (hvalue : value.Binds roots value.expr.Complete)
    (hbody : body.Binds roots body.expr.Complete)
    (hlist : ∀ p ∈ list, p.Binds roots p.expr.Complete)
    (hwhole : whole →
      (Expr.node head type.expr value.expr body.expr (list.map Part.expr)).Complete)
    (h : u.Sound roots) (hhint : ∀ t ∈ hint, u.types.Issued t) :
    Leads roots whole u (expr head type value body list scope hint) fun id v =>
      v.graph.Issued id ∧ (head.kind = .declaration ∧ value.expr.isAbsent →
        ∃ span name type, v.graph.get? id = some ⟨span, .declaration name type none⟩) := by
  -- Only declarations have more to show than that there is a node.
  have hissued {action : BindM FrameTable NodeId} (hkind : head.kind ≠ .declaration)
      (haction : Leads roots whole u action fun id v => v.graph.Issued id) :
      Leads roots whole u action fun id v =>
        v.graph.Issued id ∧ (head.kind = .declaration ∧ value.expr.isAbsent →
          ∃ span name type, v.graph.get? id = some ⟨span, .declaration name type none⟩) :=
    haction.imp fun _ _ _ hid => ⟨hid, fun hd => absurd hd.1 hkind⟩
  have hlist' (hcomplete : whole → Expr.AllComplete (list.map Part.expr)) :
      ∀ p ∈ list, p.Binds roots whole := fun p hp =>
    (hlist p hp).of_whole fun hw =>
      Expr.allComplete_iff.mp (hcomplete hw) p.expr (List.mem_map_of_mem hp)
  unfold Expr.Complete at hwhole
  unfold expr
  generalize head.kind = kind at hwhole hissued ⊢
  cases kind with
  | declaration =>
    refine (declaration_leads ?_ ?_ h hhint fun hw => (hwhole hw).2.2).imp ?_
    · exact fun hp => htype.of_whole fun hw => (hwhole hw).1.resolve_left (by simp [hp])
    · exact fun hp => hvalue.of_whole fun hw => (hwhole hw).2.1.resolve_left (by simp [hp])
    · rintro id v - ⟨span, name, own, init, hnode, hinit⟩
      refine ⟨⟨_, hnode⟩, fun hd => ⟨span, name, own, ?_⟩⟩
      rw [hnode, hinit hd.2]
  | block => exact hissued nofun (block_leads (hlist' hwhole) h hhint)
  | constant =>
    refine hissued nofun (constant_leads ?_ (hvalue.of_whole fun hw => (hwhole hw).2) h hhint)
    exact fun hp => htype.of_whole fun hw => (hwhole hw).1.resolve_left (by simp [hp])
  | name => exact hissued nofun (name_leads h)
  | intLit => exact hissued nofun (intLit_leads h hhint)
  | paren =>
    refine hissued nofun (.bind (.openScope h) fun inner v hgrow hv _ => ?_)
    have hinner := hvalue.of_whole hwhole v inner hint hv (hgrow.hint hhint)
    exact hinner.imp fun _ _ _ hid => hid.1
  | member => exact hissued nofun (member_leads (hvalue.of_whole hwhole) h)
  | procedure =>
    refine hissued nofun (procedure_leads (htype.of_whole fun hw => (hwhole hw).1)
      (hbody.of_whole fun hw => (hwhole hw).2.1) (hlist' fun hw => (hwhole hw).2.2.1)
      (fun hw p hp => ?_) h hhint)
    exact (hwhole hw).2.2.2 p.expr (List.mem_map_of_mem hp)
  | call =>
    exact hissued nofun (call_leads (hvalue.of_whole fun hw => (hwhole hw).1)
      (hlist' fun hw => (hwhole hw).2) h)
  | sliceType | multipointerType | pointerType =>
    exact hissued nofun (wrapperType_leads (htype.of_whole hwhole) h hhint)
  | structType | arrayType | procedureType => exact .fail h rfl fun _ => rfl
  | invalid | unlisted => exact .fail h rfl fun hw => (hwhole hw).elim

end Binder

namespace Expr

private theorem map_expr_bindParts (list : List Expr) :
    (bindParts (τ := FrameTable) list).map Part.expr = list := by
  induction list with
  | nil => rfl
  | cons e rest ih => rw [bindParts, List.map_cons, ih]

mutual

/-- Binding an expression leads to a node of the graph. A complete one fails only in ways that the
text of a program can cause. -/
theorem bind_binds (roots : List NodeId) :
    (e : Expr) → Part.Binds roots e.Complete ⟨e, e.bind⟩
  | absent => by
    intro u scope hint h _
    exact .throw h rfl False.elim
  | node head type value body list => by
    intro u scope hint h hhint
    let parts := bindParts (τ := FrameTable) list
    have hwhole (hc : (node head type value body list).Complete) :
        (node head type value body (parts.map Part.expr)).Complete := by
      rwa [map_expr_bindParts]
    exact .traced (Binder.expr_leads (bind_binds roots type) (bind_binds roots value)
      (bind_binds roots body) (bindParts_binds roots list) hwhole h hhint)

private theorem bindParts_binds (roots : List NodeId) :
    (list : List Expr) → ∀ p ∈ bindParts list, Part.Binds roots p.expr.Complete p
  | [] => by simp [bindParts]
  | e :: rest => by
    rw [bindParts, List.forall_mem_cons]
    exact ⟨bind_binds roots e, bindParts_binds roots rest⟩

end

end Expr

end Keywordless
