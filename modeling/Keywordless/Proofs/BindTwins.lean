import Keywordless.Proofs.TreeSpans
import Keywordless.Proofs.TwinRuns

/-!
# Binding depends on what it sees

Binding a tree does the same in two universes that look alike. There is one statement for each step
of binding, from which the statement for expressions and files follows by recursion over the tree.
-/

namespace Keywordless

open BindM (Mirrored)

variable {τ τ' : Type} [ScopeStore τ] [ScopeStore τ']

/-- Two parts with the same expression, which they bind alike. -/
structure Part.Mirrored (c : Comparison τ τ') (p : Part τ) (q : Part τ') : Prop where
  expr : p.expr = q.expr
  spans : p.expr.SpansIn c.spots
  bind : ∀ scope hint, BindM.Mirrored c scope (p.bind scope hint) (q.bind scope hint)

private theorem Part.Mirrored.spot {c : Comparison τ τ'} {p : Part τ} {q : Part τ'}
    (h : p.Mirrored c q) : c.spots p.expr.span :=
  h.spans.span c.spots_none

namespace Binder

variable {c : Comparison τ τ'} {scope : ScopeId} {span : Span} {hint : Hint} {h : ExprHead}
  {p type value body : Part τ} {p' type' value' body' : Part τ'}
  {list : List (Part τ)} {list' : List (Part τ')}

private theorem evaluate_mirrored {id : NodeId} (hspan : c.spots span) :
    Mirrored c scope (evaluate id span) (evaluate id span) := by
  refine .bind (.askGraph (·.evaluate id)) fun outcome => ?_
  cases outcome with
  | ok value => exact .pure value
  | error reason => exact .fail hspan

private theorem requireConstant_mirrored {id : NodeId} {problem : BindProblem}
    (hspan : c.spots span) :
    Mirrored c scope (requireConstant id problem span) (requireConstant id problem span) := by
  refine .bind (.isConstant id) fun constant => ?_
  cases constant with
  | true => exact .pure ()
  | false => exact .fail hspan

private theorem requireTypeOfTypes_mirrored {type : TyId} {use : TypeUse} (hspan : c.spots span) :
    Mirrored c scope (requireTypeOfTypes type span use) (requireTypeOfTypes type span use) := by
  refine .bind (.describe type) fun t => ?_
  split
  · exact .pure ()
  · exact .bind (.typeText type) fun _ => .fail hspan

private theorem typeValue_mirrored {id : NodeId} {use : TypeUse} (hspan : c.spots span) :
    Mirrored c scope (typeValue id span use) (typeValue id span use) := by
  refine .bind (requireConstant_mirrored hspan) fun _ => ?_
  refine .bind (.typeOf id) fun type => ?_
  refine .bind (requireTypeOfTypes_mirrored hspan) fun _ => ?_
  refine .bind (evaluate_mirrored hspan) fun value => ?_
  cases value with
  | type denoted => exact .pure denoted
  | _ => exact .fail hspan

private theorem typeDenoted_mirrored {use : TypeUse} (hp : p.Mirrored c p') :
    Mirrored c scope (typeDenoted p scope use) (typeDenoted p' scope use) := by
  refine .openScope fun inner => .bind (.primitive .type) fun type => ?_
  refine .bind (hp.bind inner (some type)) fun id => ?_
  rw [Part.span, Part.span, ← hp.expr]
  exact typeValue_mirrored hp.spot

private theorem ascription_mirrored (htype : type.Mirrored c type') :
    Mirrored c scope (ascription h type scope) (ascription h type' scope) := by
  unfold ascription
  rw [← htype.expr]
  split
  · exact .pure none
  · exact .bind (typeDenoted_mirrored htype) fun denoted => .pure (some denoted)

private theorem blockEntries_mirrored (hlist : List.Forall₂ (Part.Mirrored c) list list') :
    Mirrored c scope (blockEntries list scope hint) (blockEntries list' scope hint) := by
  induction hlist with
  | nil => exact .pure []
  | cons hp hrest ih =>
    cases hrest with
    | nil => exact .bind (hp.bind scope hint) fun id => .pure [id]
    | cons hq hrest =>
      exact .bind (hp.bind scope none) fun id => .bind ih fun ids => .pure (id :: ids)

private theorem hintedPrimitive_mirrored {primitive : Primitive} :
    Mirrored c scope (hintedPrimitive primitive hint) (hintedPrimitive primitive hint) := by
  cases hint with
  | none => exact .primitive primitive
  | some id =>
    refine .bind (.describe id) fun t => ?_
    split
    · exact .pure id
    · exact .primitive primitive

private theorem blockType_mirrored {ids : List NodeId} :
    Mirrored c scope (blockType ids hint) (blockType ids hint) := by
  unfold blockType
  split
  · exact .typeOf _
  · exact hintedPrimitive_mirrored

private theorem block_mirrored (hh : c.spots h.span)
    (hlist : List.Forall₂ (Part.Mirrored c) list list') :
    Mirrored c scope (block h list scope hint) (block h list' scope hint) := by
  refine .openScope fun inner => .bind (blockEntries_mirrored hlist) fun ids => ?_
  exact .bind blockType_mirrored fun type => .make _ hh

private theorem requireAscribed_mirrored {annotated : Hint} {actual : TyId}
    {problem : Bytes → Bytes → BindProblem} (htype : type.Mirrored c type')
    (hvalue : value.Mirrored c value') :
    Mirrored c scope (requireAscribed annotated actual problem type value)
      (requireAscribed annotated actual problem type' value') := by
  cases annotated with
  | none => exact .pure ()
  | some declared =>
    unfold requireAscribed
    dsimp only
    split
    · exact .pure ()
    · refine .bind (.typeText declared) fun _ => .bind (.typeText actual) fun _ => ?_
      simp only [Part.span, ← htype.expr, ← hvalue.expr]
      exact .failNoting hvalue.spot (by simpa using htype.spot)

private theorem constant_mirrored (hh : c.spots h.span) (htype : type.Mirrored c type')
    (hvalue : value.Mirrored c value') :
    Mirrored c scope (constant h type value scope hint) (constant h type' value' scope hint) := by
  refine .bind (ascription_mirrored htype) fun annotated => ?_
  refine .openScope_bind (fun inner => hvalue.bind inner (annotated <|> hint)) fun id => ?_
  simp only [Part.span, ← hvalue.expr]
  refine .bind (requireConstant_mirrored hvalue.spot) fun _ => ?_
  refine .bind (.typeOf id) fun actual => ?_
  refine .bind (requireAscribed_mirrored htype hvalue) fun _ => ?_
  refine .bind (evaluate_mirrored hvalue.spot) fun result => ?_
  refine .bind (.make _ hh) fun made => ?_
  exact .bind (.declare h.name made) fun _ => .pure made

private theorem initialValue_mirrored {annotated : Hint} (htype : type.Mirrored c type')
    (hvalue : value.Mirrored c value') :
    Mirrored c scope (initialValue h type value scope annotated)
      (initialValue h type' value' scope annotated) := by
  unfold initialValue
  rw [← hvalue.expr]
  split
  · exact .pure none
  · refine .openScope_bind (fun inner => hvalue.bind inner annotated) fun id => ?_
    refine .bind (.typeOf id) fun actual => ?_
    exact .bind (requireAscribed_mirrored htype hvalue) fun _ => .pure (some id)

private theorem declaredType_mirrored {annotated : Hint} {init : Option NodeId}
    (hh : c.spots h.span) :
    Mirrored c scope (declaredType h annotated init hint) (declaredType h annotated init hint) := by
  unfold declaredType
  split
  · exact .pure _
  · exact .typeOf _
  · exact .pure _
  · exact .fail hh

private theorem declaration_mirrored (hh : c.spots h.span) (htype : type.Mirrored c type')
    (hvalue : value.Mirrored c value') :
    Mirrored c scope (declaration h type value scope hint)
      (declaration h type' value' scope hint) := by
  refine .bind (ascription_mirrored htype) fun annotated => ?_
  refine .bind (initialValue_mirrored htype hvalue) fun init => ?_
  refine .bind (declaredType_mirrored hh) fun own => .bind (.make _ hh) fun made => ?_
  exact .bind (.declare h.name made) fun _ => .pure made

private theorem name_mirrored (hh : c.spots h.span) :
    Mirrored c scope (name h scope) (name h scope) := by
  refine .bind (.visible? h.name) fun found => ?_
  cases found with
  | some target => exact .bind (.askGraph (·.get target)) fun _ => .make _ hh
  | none => exact .failNoting hh (by simp [hh])

private theorem literalType_mirrored : Mirrored c scope (literalType hint) (literalType hint) := by
  have hint_int : Mirrored c scope (do return (← BindM.primitive .int, Primitive.int))
      (do return (← BindM.primitive .int, Primitive.int)) :=
    .bind (.primitive .int) fun id => .pure (id, Primitive.int)
  cases hint with
  | none => exact hint_int
  | some id =>
    refine .bind (.describe id) fun t => ?_
    split
    · split
      · exact .pure _
      · exact hint_int
    · exact hint_int

private theorem intLit_mirrored (hh : c.spots h.span) :
    Mirrored c scope (intLit h hint) (intLit h hint) := by
  refine .bind literalType_mirrored fun type => ?_
  dsimp only
  split
  · split
    · exact .make _ hh
    · exact .bind (.typeText type.1) fun _ => .fail hh
  · exact .bind (.typeText type.1) fun _ => .fail hh

private theorem member_mirrored (hh : c.spots h.span) (hname : c.spots h.nameSpan)
    (hvalue : value.Mirrored c value') :
    Mirrored c scope (member h value scope) (member h value' scope) := by
  refine .bind (hvalue.bind scope none) fun operand => .bind (.typeOf operand) fun type => ?_
  refine .bind (.describe type) fun t => ?_
  split
  · split
    · exact .bind (.wrap .multipointer _) fun _ => .make _ hh
    · exact .bind (.primitive .uint) fun _ => .make _ hh
    · exact .bind (.typeText type) fun _ => .fail hname
  · exact .bind (.typeText type) fun _ => .fail hh

private theorem requireParameter_mirrored {e : Expr} (he : e.SpansIn c.spots) :
    Mirrored c scope (requireParameter e) (requireParameter e) := by
  cases e with
  | absent => exact .throw _
  | node h type value body list =>
    unfold requireParameter
    dsimp only
    split
    · exact .fail he.1.1
    · split
      · exact .pure ()
      · exact .fail (he.2.2.1.span c.spots_none)

private theorem parameters_mirrored {suggested : List TyId}
    (hlist : List.Forall₂ (Part.Mirrored c) list list') :
    Mirrored c scope (parameters list scope suggested) (parameters list' scope suggested) := by
  induction hlist generalizing suggested with
  | nil => exact .pure []
  | cons hp _ ih =>
    unfold parameters
    rw [← hp.expr]
    refine .bind (requireParameter_mirrored hp.spans) fun _ => ?_
    refine .bind (hp.bind scope suggested.head?) fun id => .bind (.typeOf id) fun type => ?_
    exact .bind ih fun others => .pure ((id, type) :: others)

private theorem suggestedParams_mirrored :
    Mirrored c scope (suggestedParams hint) (suggestedParams hint) := by
  cases hint with
  | none => exact .pure []
  | some id => exact .bind (.describe id) fun t => .pure t.params

private theorem signatureType_mirrored {params : List TyId} {returns : TyId} :
    Mirrored c scope (signatureType params returns hint) (signatureType params returns hint) := by
  cases hint with
  | none => exact .procedureType params returns
  | some id =>
    refine .bind (.askTypes (·.isProcedure id params returns)) fun same => ?_
    split
    · exact .pure id
    · exact .procedureType params returns

private theorem requireReturned_mirrored {actual returns : TyId} (htype : type.Mirrored c type')
    (hbody : body.Mirrored c body') :
    Mirrored c scope (requireReturned actual returns type body)
      (requireReturned actual returns type' body') := by
  unfold requireReturned
  split
  · exact .pure ()
  · refine .bind (.typeText actual) fun _ => .bind (.typeText returns) fun _ => ?_
    simp only [Part.span, ← htype.expr, ← hbody.expr]
    exact .failNoting hbody.spot (by simpa using htype.spot)

private theorem procedure_mirrored (hh : c.spots h.span) (htype : type.Mirrored c type')
    (hbody : body.Mirrored c body') (hlist : List.Forall₂ (Part.Mirrored c) list list') :
    Mirrored c scope (procedure h type body list scope hint)
      (procedure h type' body' list' scope hint) := by
  refine .openScope fun inner => .bind suggestedParams_mirrored fun suggested => ?_
  refine .bind (parameters_mirrored hlist) fun params => ?_
  refine .bind (typeDenoted_mirrored htype) fun returns => ?_
  refine .bind (hbody.bind inner (some returns)) fun id => .bind (.typeOf id) fun actual => ?_
  refine .bind (requireReturned_mirrored htype hbody) fun _ => ?_
  exact .bind signatureType_mirrored fun own => .make _ hh

private theorem conversionArguments_mirrored (hlist : List.Forall₂ (Part.Mirrored c) list list') :
    Mirrored c scope (conversionArguments list scope hint)
      (conversionArguments list' scope hint) := by
  induction hlist with
  | nil => exact .pure []
  | cons hp _ ih =>
    refine .openScope_bind (fun inner => hp.bind inner hint) fun id => ?_
    exact .bind ih fun ids => .pure (id :: ids)

private theorem conversion_mirrored {operand : NodeId} (hh : c.spots h.span)
    (hvalue : value.Mirrored c value') (hlist : List.Forall₂ (Part.Mirrored c) list list') :
    Mirrored c scope (conversion h operand value list scope)
      (conversion h operand value' list' scope) := by
  unfold conversion
  rw [Part.span, Part.span, ← hvalue.expr, ← hlist.length_eq]
  refine .bind (typeValue_mirrored hvalue.spot) fun target => ?_
  refine .bind (conversionArguments_mirrored hlist) fun args => ?_
  split
  · next arg =>
    refine .bind (.typeOf arg) fun source => ?_
    split
    · exact .pure arg
    · refine .bind (.describe target) fun t => .bind (.describe source) fun r => ?_
      dsimp only
      split
      · exact .make _ hh
      · exact .bind (.typeText source) fun _ => .bind (.typeText target) fun _ => .fail hh
  · exact .bind (.typeText target) fun _ => .fail hh

private theorem requireArgument_mirrored {position : Nat} {actual expected : TyId}
    (hp : p.Mirrored c p') :
    Mirrored c scope (requireArgument position actual expected p)
      (requireArgument position actual expected p') := by
  unfold requireArgument
  split
  · exact .pure ()
  · refine .bind (.typeText actual) fun _ => .bind (.typeText expected) fun _ => ?_
    rw [Part.span, Part.span, ← hp.expr]
    exact .fail hp.spot

private theorem invocationArguments_mirrored {position : Nat} {params : List TyId}
    (hlist : List.Forall₂ (Part.Mirrored c) list list') :
    Mirrored c scope (invocationArguments position list params scope)
      (invocationArguments position list' params scope) := by
  induction hlist generalizing position params with
  | nil => exact .pure []
  | cons hp _ ih =>
    cases params with
    | nil => exact .pure []
    | cons expected params =>
      refine .openScope_bind (fun inner => hp.bind inner (some expected)) fun id => ?_
      refine .bind (.typeOf id) fun actual => .bind (requireArgument_mirrored hp) fun _ => ?_
      exact .bind ih fun ids => .pure (id :: ids)

private theorem invocation_mirrored {operand : NodeId} {params : List TyId} {result : TyId}
    (hh : c.spots h.span) (hlist : List.Forall₂ (Part.Mirrored c) list list') :
    Mirrored c scope (invocation h operand list params result scope)
      (invocation h operand list' params result scope) := by
  unfold invocation
  rw [← hlist.length_eq]
  split
  · exact .bind (invocationArguments_mirrored hlist) fun args => .make _ hh
  · exact .bind (.typeOf operand) fun type => .bind (.typeText type) fun _ => .fail hh

private theorem call_mirrored (hh : c.spots h.span) (hvalue : value.Mirrored c value')
    (hlist : List.Forall₂ (Part.Mirrored c) list list') :
    Mirrored c scope (call h value list scope) (call h value' list' scope) := by
  refine .bind (hvalue.bind scope none) fun operand => .bind (.typeOf operand) fun type => ?_
  refine .bind (.describe type) fun t => ?_
  split
  · exact conversion_mirrored hh hvalue hlist
  · exact invocation_mirrored hh hlist
  · refine .bind (.typeText type) fun _ => ?_
    rw [Part.span, Part.span, ← hvalue.expr]
    exact .fail hvalue.spot

private theorem wrapperType_mirrored {w : Wrapper} (hh : c.spots h.span)
    (htype : type.Mirrored c type') :
    Mirrored c scope (wrapperType w h type scope hint) (wrapperType w h type' scope hint) := by
  refine .bind (typeDenoted_mirrored htype) fun elem => .bind (.wrap w elem) fun _ => ?_
  exact .bind hintedPrimitive_mirrored fun _ => .make _ hh

private theorem expr_mirrored (hh : c.spots h.span) (hname : h.kind = .member → c.spots h.nameSpan)
    (htype : type.Mirrored c type') (hvalue : value.Mirrored c value')
    (hbody : body.Mirrored c body') (hlist : List.Forall₂ (Part.Mirrored c) list list') :
    Mirrored c scope (expr h type value body list scope hint)
      (expr h type' value' body' list' scope hint) := by
  unfold expr
  generalize h.kind = kind at hname ⊢
  cases kind with
  | block => exact block_mirrored hh hlist
  | constant => exact constant_mirrored hh htype hvalue
  | declaration => exact declaration_mirrored hh htype hvalue
  | name => exact name_mirrored hh
  | intLit => exact intLit_mirrored hh
  | paren => exact .openScope fun inner => hvalue.bind inner hint
  | member => exact member_mirrored hh (hname rfl) hvalue
  | procedure => exact procedure_mirrored hh htype hbody hlist
  | call => exact call_mirrored hh hvalue hlist
  | sliceType | multipointerType | pointerType => exact wrapperType_mirrored hh htype
  | structType | arrayType | procedureType | invalid | unlisted => exact .fail hh

end Binder

namespace Expr

variable {c : Comparison τ τ'}

mutual

private theorem bind_mirrored : (e : Expr) → e.SpansIn c.spots →
    Part.Mirrored c (⟨e, e.bind⟩ : Part τ) (⟨e, e.bind⟩ : Part τ')
  | absent, he => ⟨rfl, he, fun _ _ => .throw _⟩
  | node h type value body list, he => by
    refine ⟨rfl, he, fun scope hint => .traced _ ?_⟩
    obtain ⟨⟨hspan, hname⟩, htype, hvalue, hbody, hlist⟩ := he
    exact Binder.expr_mirrored hspan hname (bind_mirrored type htype) (bind_mirrored value hvalue)
      (bind_mirrored body hbody) (bindParts_mirrored list hlist)

private theorem bindParts_mirrored : (list : List Expr) → AllSpansIn c.spots list →
    List.Forall₂ (Part.Mirrored c) (bindParts list : List (Part τ))
      (bindParts list : List (Part τ'))
  | [], _ => .nil
  | e :: rest, he => .cons (bind_mirrored e he.1) (bindParts_mirrored rest he.2)

end

end Expr

namespace SyntaxFile

variable {c : Comparison τ τ'}

private theorem requireItem_mirrored {e : Expr} {scope : ScopeId} (he : e.SpansIn c.spots) :
    Mirrored c scope (requireItem e : BindM τ Unit) (requireItem e : BindM τ' Unit) := by
  cases e with
  | absent => exact .throw _
  | node h type value body list =>
    unfold requireItem
    dsimp only
    split
    · exact .pure ()
    · exact .fail he.1.1

private theorem bindItems_mirrored {items : List Expr} (hitems : Expr.AllSpansIn c.spots items) :
    Mirrored c Universe.root (bindItems items : BindM τ (List NodeId))
      (bindItems items : BindM τ' (List NodeId)) := by
  induction items with
  | nil => exact .pure []
  | cons e rest ih =>
    refine .bind (requireItem_mirrored hitems.1) fun _ => ?_
    refine .bind ((Expr.bind_mirrored e hitems.1).bind Universe.root none) fun id => ?_
    exact .bind (ih hitems.2) fun ids => .pure (id :: ids)

/-- A file is bound alike in universes that look alike. -/
theorem bind_mirrored {f : SyntaxFile} (hitems : Expr.AllSpansIn c.spots f.items)
    (hfile : c.spots ⟨f.span.file, 0, 0⟩) :
    Mirrored c Universe.root (f.bind : BindM τ NodeId) (f.bind : BindM τ' NodeId) :=
  .bind (bindItems_mirrored hitems) fun _ => .bind (.primitive .void) fun _ => .make _ hfile

end SyntaxFile

end Keywordless
