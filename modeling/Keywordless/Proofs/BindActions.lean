import Keywordless.Binding.Binder
import Keywordless.Binding.Entry

/-!
# What binding is made of

Every step of binding is a sequence of a few basic actions, some of them inside trace spans. What
each basic action does, what a sequence keeps and what a span keeps is therefore true of binding as
a whole.
-/

namespace Keywordless

variable {τ : Type} [ScopeStore τ]

/-- The action is put together from basic ones. -/
inductive BindM.Built : {α : Type} → BindM τ α → Prop
  | pure {α : Type} (a : α) : Built (pure a)
  | throw {α : Type} (e : BindFailure) : Built (throw e : BindM τ α)
  | fail {α : Type} (problem : BindProblem) (span : Span) (notes : List Note) :
      Built (fail problem span notes : BindM τ α)
  | ask {α : Type} (answer : Universe τ → Except Fault α) : Built (ask answer)
  | primitive (p : Primitive) : Built (primitive p)
  | wrap (w : Wrapper) (elem : TyId) : Built (wrap w elem)
  | procedureType (params : List TyId) (result : TyId) : Built (procedureType params result)
  | make (span : Span) (shape : Shape) : Built (make span shape)
  | openScope (scope : ScopeId) : Built (openScope scope)
  | visible? (scope : ScopeId) (name : Bytes) : Built (visible? scope name)
  | declare (scope : ScopeId) (name : Bytes) (id : NodeId) : Built (declare scope name id)
  | bind {α β : Type} {action : BindM τ α} {next : α → BindM τ β} (first : Built action)
      (rest : ∀ a, Built (next a)) : Built (action >>= next)
  | traced {α : Type} (name : Bytes) {action : BindM τ α} (inside : Built action) :
      Built (traced name action)

open BindM (Built)

/-- Binding the part is put together from basic actions. -/
def Part.Built (p : Part τ) : Prop := ∀ scope hint, BindM.Built (p.bind scope hint)

namespace Binder

variable {scope : ScopeId} {span : Span} {hint : Hint} {h : ExprHead} {p type value body : Part τ}
  {list : List (Part τ)}

private theorem typeText_built (id : TyId) : Built (BindM.typeText id : BindM τ Bytes) := .ask _

private theorem describe_built (id : TyId) : Built (BindM.describe id : BindM τ Ty) := .ask _

theorem typeOf_built (id : NodeId) : Built (BindM.typeOf id : BindM τ TyId) := .ask _

private theorem evaluate_built (id : NodeId) : Built (evaluate id span : BindM τ Value) := by
  apply Built.bind (.ask _)
  intro outcome
  cases outcome with
  | ok value => exact .pure value
  | error reason => exact .fail _ _ _

private theorem requireConstant_built (id : NodeId) (problem : BindProblem) :
    Built (requireConstant id problem span : BindM τ Unit) := by
  apply Built.bind (.ask _)
  intro constant
  cases constant with
  | true => exact .pure ()
  | false => exact .fail _ _ _

private theorem typeValue_built (id : NodeId) (use : TypeUse) :
    Built (typeValue id span use : BindM τ TyId) := by
  apply Built.bind (requireConstant_built _ _)
  intro _
  apply Built.bind (typeOf_built id)
  intro type
  apply Built.bind
  · apply Built.bind (describe_built type)
    intro t
    split
    · exact .pure ()
    · exact .bind (typeText_built type) fun _ => .fail _ _ _
  · intro _
    apply Built.bind (evaluate_built id)
    intro value
    cases value with
    | type denoted => exact .pure denoted
    | invalid | procedure | int => exact .fail _ _ _

theorem typeDenoted_built (hp : p.Built) (use : TypeUse) : Built (typeDenoted p scope use) := by
  apply Built.bind (.openScope scope)
  intro inner
  apply Built.bind (.primitive .type)
  intro type
  exact .bind (hp inner (some type)) fun id => typeValue_built id use

private theorem ascription_built (htype : type.Built) : Built (ascription h type scope) := by
  unfold ascription
  split
  · exact .pure none
  · exact .bind (typeDenoted_built htype _) fun denoted => .pure (some denoted)

theorem blockEntries_built (hlist : ∀ p ∈ list, p.Built) :
    Built (blockEntries list scope hint) := by
  induction list with
  | nil => exact .pure []
  | cons p rest ih =>
    have hp : p.Built := hlist p List.mem_cons_self
    cases rest with
    | nil => exact .bind (hp scope hint) fun id => .pure [id]
    | cons q rest =>
      apply Built.bind (hp scope none)
      intro id
      exact .bind (ih fun r hr => hlist r (List.mem_cons_of_mem _ hr)) fun ids => .pure (id :: ids)

theorem hintedPrimitive_built (p : Primitive) : Built (hintedPrimitive p hint : BindM τ TyId) := by
  cases hint with
  | none => exact .primitive p
  | some id =>
    apply Built.bind (describe_built id)
    intro t
    split
    · exact .pure id
    · exact .primitive p

theorem blockType_built (ids : List NodeId) : Built (blockType ids hint : BindM τ TyId) := by
  unfold blockType
  split
  · exact typeOf_built _
  · exact hintedPrimitive_built .void

private theorem block_built (hlist : ∀ p ∈ list, p.Built) : Built (block h list scope hint) := by
  apply Built.bind (.openScope scope)
  intro inner
  apply Built.bind (blockEntries_built hlist)
  intro ids
  exact .bind (blockType_built ids) fun type => .make _ _

private theorem requireAscribed_built (annotated : Hint) (actual : TyId)
    (problem : Bytes → Bytes → BindProblem) :
    Built (requireAscribed annotated actual problem type value) := by
  cases annotated with
  | none => exact .pure ()
  | some declared =>
    unfold requireAscribed
    dsimp only
    split
    · exact .pure ()
    · exact .bind (typeText_built declared) fun _ => .bind (typeText_built actual) fun _ =>
        .fail _ _ _

private theorem constant_built (htype : type.Built) (hvalue : value.Built) :
    Built (constant h type value scope hint) := by
  apply Built.bind (ascription_built htype)
  intro annotated
  apply Built.bind (.openScope scope)
  intro inner
  apply Built.bind (hvalue inner (annotated <|> hint))
  intro id
  apply Built.bind (requireConstant_built id _)
  intro _
  apply Built.bind (typeOf_built id)
  intro actual
  apply Built.bind (requireAscribed_built annotated actual _)
  intro _
  apply Built.bind (evaluate_built id)
  intro result
  apply Built.bind (.make _ _)
  intro made
  exact .bind (.declare scope h.name made) fun _ => .pure made

private theorem initialValue_built (hvalue : value.Built) (annotated : Hint) :
    Built (initialValue h type value scope annotated) := by
  unfold initialValue
  split
  · exact .pure none
  · apply Built.bind (.openScope scope)
    intro inner
    apply Built.bind (hvalue inner annotated)
    intro id
    apply Built.bind (typeOf_built id)
    intro actual
    exact .bind (requireAscribed_built annotated actual _) fun _ => .pure (some id)

private theorem declaration_built (htype : type.Built) (hvalue : value.Built) :
    Built (declaration h type value scope hint) := by
  apply Built.bind (ascription_built htype)
  intro annotated
  apply Built.bind (initialValue_built hvalue annotated)
  intro init
  apply Built.bind
  · unfold declaredType
    split
    · exact .pure _
    · exact typeOf_built _
    · exact .pure _
    · exact .fail _ _ _
  · intro own
    apply Built.bind (.make _ _)
    intro made
    exact .bind (.declare scope h.name made) fun _ => .pure made

private theorem name_built : Built (name h scope : BindM τ NodeId) := by
  apply Built.bind (.visible? scope h.name)
  intro found
  cases found with
  | some target => exact .bind (.ask _) fun _ => .make _ _
  | none => exact .fail _ _ _

private theorem intLit_built : Built (intLit h hint : BindM τ NodeId) := by
  have hdefault : Built (do return (← BindM.primitive .int, Primitive.int) :
      BindM τ (TyId × Primitive)) :=
    .bind (.primitive .int) fun id => .pure (id, Primitive.int)
  have htype : Built (literalType hint : BindM τ (TyId × Primitive)) := by
    cases hint with
    | none => exact hdefault
    | some id =>
      apply Built.bind (describe_built id)
      intro t
      cases t with
      | primitive p =>
        dsimp only
        split
        · exact .pure (id, p)
        · exact hdefault
      | wrapped | procedure => exact hdefault
  apply Built.bind htype
  intro type
  dsimp only
  split
  · split
    · exact .make _ _
    · exact .bind (typeText_built type.1) fun _ => .fail _ _ _
  · exact .bind (typeText_built type.1) fun _ => .fail _ _ _

private theorem member_built (hvalue : value.Built) : Built (member h value scope) := by
  apply Built.bind (hvalue scope none)
  intro operand
  apply Built.bind (typeOf_built operand)
  intro type
  apply Built.bind (describe_built type)
  intro t
  split
  · split
    · exact .bind (.wrap _ _) fun _ => .make _ _
    · exact .bind (.primitive .uint) fun _ => .make _ _
    · exact .bind (typeText_built type) fun _ => .fail _ _ _
  · exact .bind (typeText_built type) fun _ => .fail _ _ _

private theorem requireParameter_built (e : Expr) : Built (requireParameter e : BindM τ Unit) := by
  cases e with
  | absent => exact .throw _
  | node h type value body list =>
    unfold requireParameter
    dsimp only
    split
    · exact .fail _ _ _
    · split
      · exact .pure ()
      · exact .fail _ _ _

theorem parameters_built (hlist : ∀ p ∈ list, p.Built) (suggested : List TyId) :
    Built (parameters list scope suggested) := by
  induction list generalizing suggested with
  | nil => exact .pure []
  | cons p rest ih =>
    apply Built.bind (requireParameter_built p.expr)
    intro _
    apply Built.bind (hlist p List.mem_cons_self scope suggested.head?)
    intro id
    apply Built.bind (typeOf_built id)
    intro type
    exact .bind (ih (fun q hq => hlist q (List.mem_cons_of_mem _ hq)) _) fun others => .pure _

theorem signatureType_built (params : List TyId) (returns : TyId) :
    Built (signatureType params returns hint : BindM τ TyId) := by
  cases hint with
  | none => exact .procedureType _ _
  | some id =>
    apply Built.bind (.ask _)
    intro same
    split
    · exact .pure id
    · exact .procedureType _ _

theorem requireReturned_built (actual returns : TyId) :
    Built (requireReturned actual returns type body) := by
  unfold requireReturned
  split
  · exact .pure ()
  · exact .bind (typeText_built actual) fun _ => .bind (typeText_built returns) fun _ => .fail _ _ _

private theorem procedure_built (htype : type.Built) (hbody : body.Built)
    (hlist : ∀ p ∈ list, p.Built) : Built (procedure h type body list scope hint) := by
  apply Built.bind (.openScope scope)
  intro inner
  apply Built.bind
  · cases hint with
    | none => exact .pure []
    | some id => exact .bind (describe_built id) fun t => .pure t.params
  · intro suggested
    apply Built.bind (parameters_built hlist suggested)
    intro params
    apply Built.bind (typeDenoted_built htype .returnType)
    intro returns
    apply Built.bind (hbody inner (some returns))
    intro id
    apply Built.bind (typeOf_built id)
    intro actual
    apply Built.bind (requireReturned_built actual returns)
    intro _
    exact .bind (signatureType_built _ returns) fun own => .make _ _

private theorem conversionArguments_built (hlist : ∀ p ∈ list, p.Built) :
    Built (conversionArguments list scope hint) := by
  induction list with
  | nil => exact .pure []
  | cons p rest ih =>
    apply Built.bind (.openScope scope)
    intro inner
    apply Built.bind (hlist p List.mem_cons_self inner hint)
    intro id
    exact .bind (ih fun q hq => hlist q (List.mem_cons_of_mem _ hq)) fun ids => .pure (id :: ids)

private theorem conversion_built (operand : NodeId) (hlist : ∀ p ∈ list, p.Built) :
    Built (conversion h operand value list scope) := by
  apply Built.bind (typeValue_built operand .conversionTarget)
  intro target
  apply Built.bind (conversionArguments_built hlist)
  intro args
  split
  · next arg =>
    apply Built.bind (typeOf_built arg)
    intro source
    split
    · exact .pure arg
    · apply Built.bind (describe_built target)
      intro t
      apply Built.bind (describe_built source)
      intro r
      dsimp only
      split
      · exact .make _ _
      · exact .bind (typeText_built source) fun _ => .bind (typeText_built target) fun _ =>
          .fail _ _ _
  · exact .bind (typeText_built target) fun _ => .fail _ _ _

private theorem invocationArguments_built (hlist : ∀ p ∈ list, p.Built) (position : Nat)
    (params : List TyId) : Built (invocationArguments position list params scope) := by
  induction list generalizing position params with
  | nil => exact .pure []
  | cons p rest ih =>
    cases params with
    | nil => exact .pure []
    | cons expected params =>
      apply Built.bind (.openScope scope)
      intro inner
      apply Built.bind (hlist p List.mem_cons_self inner (some expected))
      intro id
      apply Built.bind (typeOf_built id)
      intro actual
      apply Built.bind
      · unfold requireArgument
        split
        · exact .pure ()
        · exact .bind (typeText_built actual) fun _ => .bind (typeText_built expected) fun _ =>
            .fail _ _ _
      · intro _
        refine .bind ?_ fun ids => .pure (id :: ids)
        exact ih (fun q hq => hlist q (List.mem_cons_of_mem _ hq)) _ _

private theorem invocation_built (operand : NodeId) (params : List TyId) (result : TyId)
    (hlist : ∀ p ∈ list, p.Built) : Built (invocation h operand list params result scope) := by
  unfold invocation
  split
  · exact .bind (invocationArguments_built hlist 1 params) fun args => .make _ _
  · apply Built.bind (typeOf_built operand)
    intro type
    exact .bind (typeText_built type) fun _ => .fail _ _ _

private theorem call_built (hvalue : value.Built) (hlist : ∀ p ∈ list, p.Built) :
    Built (call h value list scope) := by
  apply Built.bind (hvalue scope none)
  intro operand
  apply Built.bind (typeOf_built operand)
  intro type
  apply Built.bind (describe_built type)
  intro t
  split
  · exact conversion_built operand hlist
  · exact invocation_built operand _ _ hlist
  · exact .bind (typeText_built type) fun _ => .fail _ _ _

private theorem wrapperType_built (w : Wrapper) (htype : type.Built) :
    Built (wrapperType w h type scope hint) := by
  apply Built.bind (typeDenoted_built htype .elementType)
  intro elem
  apply Built.bind (.wrap _ _)
  intro denoted
  exact .bind (hintedPrimitive_built .type) fun own => .make _ _

private theorem expr_built (htype : type.Built) (hvalue : value.Built) (hbody : body.Built)
    (hlist : ∀ p ∈ list, p.Built) : Built (expr h type value body list scope hint) := by
  unfold expr
  cases h.kind with
  | block => exact block_built hlist
  | constant => exact constant_built htype hvalue
  | declaration => exact declaration_built htype hvalue
  | name => exact name_built
  | intLit => exact intLit_built
  | paren => exact .bind (.openScope scope) fun inner => hvalue inner hint
  | member => exact member_built hvalue
  | procedure => exact procedure_built htype hbody hlist
  | call => exact call_built hvalue hlist
  | sliceType | multipointerType | pointerType => exact wrapperType_built _ htype
  | structType | arrayType | procedureType | invalid | unlisted => exact .fail _ _ _

end Binder

namespace Expr

mutual

theorem bind_built : (e : Expr) → Part.Built (⟨e, e.bind⟩ : Part τ)
  | absent => fun _ _ => .throw _
  | node _ type value body list => fun _ _ =>
    .traced _ (Binder.expr_built (bind_built type) (bind_built value) (bind_built body)
      (bindParts_built list))

theorem bindParts_built : (list : List Expr) → ∀ p ∈ (bindParts list : List (Part τ)), p.Built
  | [] => by simp [bindParts]
  | e :: rest => by
    rw [bindParts, List.forall_mem_cons]
    exact ⟨bind_built e, bindParts_built rest⟩

end

end Expr

namespace SyntaxFile

private theorem bindItems_built (items : List Expr) :
    Built (bindItems items : BindM τ (List NodeId)) := by
  induction items with
  | nil => exact .pure []
  | cons e rest ih =>
    apply Built.bind
    · cases e with
      | absent => exact .throw _
      | node h type value body list =>
        unfold requireItem
        dsimp only
        split
        · exact .pure ()
        · exact .fail _ _ _
    · intro _
      apply Built.bind (Expr.bind_built e Universe.root none)
      intro id
      exact .bind ih fun ids => .pure (id :: ids)

theorem bind_built (f : SyntaxFile) : Built (f.bind : BindM τ NodeId) :=
  .bind (bindItems_built f.items) fun _ => .bind (.primitive .void) fun _ => .make _ _

end SyntaxFile

theorem Entry.check_built (file : FileId) : Built (check file : BindM τ NodeId) := by
  apply Built.bind (.visible? Universe.root name)
  intro found
  cases found with
  | none => exact .fail _ _ _
  | some id =>
    apply Built.bind
    · apply Built.bind (.primitive .u8)
      intro byte
      apply Built.bind (.wrap _ _)
      intro text
      apply Built.bind (.wrap _ _)
      intro args
      exact .bind (.primitive .int) fun status => .procedureType _ _
    · intro expected
      apply Built.bind (.ask _)
      intro actual
      split
      · exact .pure id
      · apply Built.bind (.ask _)
        intro node
        exact .bind (.ask _) fun _ => .bind (.ask _) fun _ => .fail _ _ _

end Keywordless
