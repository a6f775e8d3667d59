import Keywordless.Proofs.BindCaptures
import Keywordless.Proofs.Hints

/-!
# What binding leaves in the scopes

Binding opens a scope for nearly everything that it binds, and what happens in a new scope does not
show in the frames that were there. Only a constant and a declaration bind a name in the scope that
they stand in, and they do so as their last step, so that a failure leaves every frame as it was.
Operands are bound in the scope of the whole expression, but no text has a constant or a declaration
as an operand.
-/

namespace Keywordless

open BindM (Still Built)

/-! ### Operands -/

namespace Expr

def isBinding (e : Expr) : Bool := e.kind == .constant || e.kind == .declaration

private theorem isBinding_iff (e : Expr) :
    e.isBinding = true ↔ e.kind = .constant ∨ e.kind = .declaration := by
  simp [isBinding]

mutual

/-- No member access and no call has a constant or a declaration as its operand. -/
def PlainOperands : Expr → Prop
  | absent => True
  | node h type value body list =>
    (h.kind = .member ∨ h.kind = .call → value.isBinding = false) ∧ PlainOperands type ∧
      PlainOperands value ∧ PlainOperands body ∧ AllPlainOperands list

def AllPlainOperands : List Expr → Prop
  | [] => True
  | e :: rest => PlainOperands e ∧ AllPlainOperands rest

end

private theorem allPlainOperands_iff {list : List Expr} :
    AllPlainOperands list ↔ ∀ e ∈ list, e.PlainOperands := by
  induction list with
  | nil => simp [AllPlainOperands]
  | cons e rest ih => simp [AllPlainOperands, ih]

mutual

private theorem plainOperands_bare : (e : Expr) → (e.bare.PlainOperands ↔ e.PlainOperands)
  | absent => Iff.rfl
  | node h type value body list => by
    rw [bare, PlainOperands, PlainOperands]
    simp only [isBinding, bare_kind, plainOperands_bare type, plainOperands_bare value,
      plainOperands_bare body, allPlainOperands_bareAll list]

private theorem allPlainOperands_bareAll :
    (list : List Expr) → (AllPlainOperands (bareAll list) ↔ AllPlainOperands list)
  | [] => Iff.rfl
  | e :: rest => by
    rw [bareAll, AllPlainOperands, AllPlainOperands, plainOperands_bare e,
      allPlainOperands_bareAll rest]

end

private theorem PlainOperands.ownParts {e p : Expr} (h : e.PlainOperands) (hp : p ∈ e.ownParts) :
    p.PlainOperands := by
  cases e with
  | absent => cases hp
  | node head type value body list =>
    obtain ⟨-, htype, hvalue, hbody, hlist⟩ := h
    rw [allPlainOperands_iff] at hlist
    rw [Expr.ownParts] at hp
    generalize head.kind = kind at hp
    cases kind <;> simp only [List.mem_append, List.mem_cons, List.not_mem_nil, or_false] at hp <;>
      grind

private theorem PartOf.plainOperands {d e : Expr} (h : PartOf d e) (he : e.PlainOperands) :
    d.PlainOperands := by
  induction h with
  | refl => exact he
  | part hp _ ih => exact ih (he.ownParts hp)

end Expr

namespace Grammar

def PlainOperand (e : Expr) : Prop := e.isBinding = false ∧ e.PlainOperands

def Operator.args : Operator → List Expr
  | call args => args
  | member _ => []

private theorem foldl_apply_plain {e : Expr} {ops : List Operator} (he : PlainOperand e)
    (hops : ∀ op ∈ ops, Expr.AllPlainOperands op.args) :
    PlainOperand (ops.foldl Operator.apply e) := by
  induction ops generalizing e with
  | nil => exact he
  | cons op rest ih =>
    obtain ⟨hop, hrest⟩ := List.forall_mem_cons.mp hops
    refine ih ?_ hrest
    cases op with
    | call args => exact ⟨rfl, fun _ => he.1, trivial, he.2, trivial, hop⟩
    | member name => exact ⟨rfl, fun _ => he.1, trivial, he.2, trivial, trivial⟩

mutual

private theorem Expression.plainOperands {greedy : Prop} {s s' : List Token} {e : Expr} :
    Expression greedy s e s' → e.PlainOperands
  | .operand hoperand => (Operand.plainOperand hoperand).2
  | .constant _ _ htype _ hvalue =>
    ⟨by simp, Ascription.plainOperands htype, Expression.plainOperands hvalue, trivial, trivial⟩
  | .declaration _ _ htype _ hvalue =>
    ⟨by simp, Ascription.plainOperands htype, Expression.plainOperands hvalue, trivial, trivial⟩
  | .typed _ _ htype => ⟨by simp, (Operand.plainOperand htype).2, trivial, trivial, trivial⟩

private theorem Ascription.plainOperands {greedy : Prop} {s s' : List Token} {e : Expr} :
    Ascription greedy s e s' → e.PlainOperands
  | .none => trivial
  | .some hoperand => (Operand.plainOperand hoperand).2

private theorem Operand.plainOperand {greedy : Prop} {s s' : List Token} {e : Expr}
    {dangling : Bool} : Operand greedy s e dangling s' → PlainOperand e
  | .slice _ _ helem => ⟨rfl, by simp, (Operand.plainOperand helem).2, trivial, trivial, trivial⟩
  | .multipointer _ _ _ helem =>
    ⟨rfl, by simp, (Operand.plainOperand helem).2, trivial, trivial, trivial⟩
  | .array _ _ hlength _ helem =>
    ⟨rfl, by simp, (Operand.plainOperand helem).2, (Operand.plainOperand hlength).2, trivial,
      trivial⟩
  | .pointer _ helem => ⟨rfl, by simp, (Operand.plainOperand helem).2, trivial, trivial, trivial⟩
  | .applied hprimary hops _ =>
    foldl_apply_plain (Primary.plainOperand hprimary) (Operators.plainOperands hops)

private theorem Primary.plainOperand {greedy : Prop} {s s' : List Token} {e : Expr}
    {dangling : Bool} : Primary greedy s e dangling s' → PlainOperand e
  | .name _ => ⟨rfl, by simp, trivial, trivial, trivial, trivial⟩
  | .intLit _ => ⟨rfl, by simp, trivial, trivial, trivial, trivial⟩
  | .block hblock => Block.plainOperand hblock
  | .paren hargs _ => ⟨rfl, by simp, trivial, (Arguments.plainOperands hargs).1, trivial, trivial⟩
  | .structType hargs _ _ =>
    ⟨rfl, by simp, trivial, trivial, trivial, Arguments.plainOperands hargs⟩
  | .procedureType hargs _ _ htype =>
    ⟨rfl, by simp, (Operand.plainOperand htype).2, trivial, trivial, Arguments.plainOperands hargs⟩
  | .procedure hargs _ _ htype hbody _ =>
    ⟨rfl, by simp, (Operand.plainOperand htype).2, trivial, (Block.plainOperand hbody).2,
      Arguments.plainOperands hargs⟩

private theorem Operators.plainOperands {greedy : Prop} {s s' : List Token} {ops : List Operator} :
    Operators greedy s ops s' → ∀ op ∈ ops, Expr.AllPlainOperands op.args
  | .nil => by simp
  | .call hargs hrest =>
    List.forall_mem_cons.mpr ⟨Arguments.plainOperands hargs, Operators.plainOperands hrest⟩
  | .member _ _ hrest => List.forall_mem_cons.mpr ⟨trivial, Operators.plainOperands hrest⟩

private theorem Block.plainOperand {greedy : Prop} {s s' : List Token} {e : Expr} :
    Block greedy s e s' → PlainOperand e
  | .mk _ hlist _ => ⟨rfl, by simp, trivial, trivial, trivial, Sequence.plainOperands hlist⟩

private theorem Arguments.plainOperands {greedy : Prop} {s s' : List Token} {list : List Expr} :
    Arguments greedy s list s' → Expr.AllPlainOperands list
  | .mk _ _ hlist _ => Entries.plainOperands hlist

private theorem Entries.plainOperands {greedy : Prop} {s s' : List Token} {list : List Expr} :
    Entries greedy s list s' → Expr.AllPlainOperands list
  | .none => trivial
  | .last hfirst _ => ⟨Expression.plainOperands hfirst, trivial⟩
  | .more hfirst _ _ _ hrest => ⟨Expression.plainOperands hfirst, Entries.plainOperands hrest⟩

private theorem Sequence.plainOperands {greedy : Prop} {s s' : List Token} {list : List Expr} :
    Sequence greedy s list s' → Expr.AllPlainOperands list
  | .empty _ => trivial
  | .cons _ hfirst hrest => ⟨Expression.plainOperands hfirst, Rest.plainOperands hrest⟩

private theorem Rest.plainOperands {greedy : Prop} {s s' : List Token} {list : List Expr} :
    Rest greedy s list s' → Expr.AllPlainOperands list
  | .nil => trivial
  | .separated _ hlist => Sequence.plainOperands hlist

end

end Grammar

/-! ### Frames that are there -/

namespace FrameTable

variable {own : Option ScopeId} {t t' t'' : FrameTable} {scope : ScopeId}

/-- The frames of the first table are those at the front of the second, except for that of the
given scope, if any. -/
structure Spares (own : Option ScopeId) (t t' : FrameTable) : Prop where
  size : t.frames.size ≤ t'.frames.size
  frames : ∀ i < t.frames.size, own ≠ some i → t'.frames[i]? = t.frames[i]?

namespace Spares

private theorem refl (own : Option ScopeId) (t : FrameTable) : Spares own t t :=
  ⟨le_rfl, fun _ _ _ => rfl⟩

private theorem trans (h : Spares own t t') (h' : Spares own t' t'') : Spares own t t'' :=
  ⟨h.size.trans h'.size, fun i hi hne =>
    (h'.frames i (hi.trans_le h.size) hne).trans (h.frames i hi hne)⟩

private theorem weaken (h : Spares none t t') (own : Option ScopeId) : Spares own t t' :=
  ⟨h.size, fun i hi _ => h.frames i hi (by simp)⟩

private theorem insert (t : FrameTable) (scope : ScopeId) (name : Bytes) (id : NodeId) :
    Spares (some scope) t (t.insert scope name id) :=
  ⟨by simp [FrameTable.insert], fun _ _ hne =>
    t.insert_getElem? (fun h => hne (congrArg some h)) name id⟩

private theorem left (h : Spares (some (t.child scope).1) (t.child scope).2 t') :
    Spares own t t' := by
  have hsize := h.size
  simp only [FrameTable.child, Array.size_push] at hsize
  refine ⟨by omega, fun i hi _ => ?_⟩
  rw [← t.child_getElem? scope hi]
  apply h.frames
  · simpa [FrameTable.child] using Nat.lt_succ_of_lt hi
  · simpa [FrameTable.child] using hi.ne'

private theorem insert_both (h : Spares none t t') (name : Bytes) (id : NodeId) :
    Spares none (t.insert scope name id) (t'.insert scope name id) := by
  refine ⟨by simpa [FrameTable.insert] using h.size, fun i hi hne => ?_⟩
  have hi' : i < t.frames.size := by simpa [FrameTable.insert] using hi
  simp only [FrameTable.insert, Array.getElem?_modify, h.frames i hi' hne]

end Spares

def named (t : FrameTable) (scope : ScopeId) (name : Bytes) :
    Except BindFailure NodeId → FrameTable
  | .ok id => t.insert scope name id
  | .error _ => t

private theorem named_size (t : FrameTable) (scope : ScopeId) (name : Bytes)
    (result : Except BindFailure NodeId) :
    (t.named scope name result).frames.size = t.frames.size := by
  cases result with
  | ok id => simp [named, FrameTable.insert]
  | error e => rfl

private theorem Spares.named_both (h : Spares none t t') (name : Bytes)
    (result : Except BindFailure NodeId) :
    Spares none (t.named scope name result) (t'.named scope name result) := by
  cases result with
  | ok id => exact h.insert_both name id
  | error e => exact h

private theorem Spares.named (t : FrameTable) (scope : ScopeId) (name : Bytes)
    (result : Except BindFailure NodeId) : Spares (some scope) t (t.named scope name result) := by
  cases result with
  | ok id => exact .insert t scope name id
  | error e => exact .refl _ _

end FrameTable

namespace BindM

variable {α β : Type}

/-- Among the frames that are there, the action changes at most that of the given scope, if any. -/
def Confined (own : Option ScopeId) (action : BindM FrameTable α) : Prop :=
  ∀ s, FrameTable.Spares own s.world.scopes (exec action s).2.world.scopes

namespace Confined

variable {own : Option ScopeId} {action : BindM FrameTable α} {next : α → BindM FrameTable β}

private theorem of_still (h : Still action) : Confined own action := by
  intro s
  rw [(h s).2]
  exact .refl _ _

private theorem weaken (h : Confined none action) : Confined own action := fun s => (h s).weaken own

private theorem make (span : Span) (shape : Shape) : Confined own (BindM.make span shape) :=
  fun _ => .refl _ _

private theorem visible? (scope : ScopeId) (name : Bytes) :
    Confined own (BindM.visible? scope name) :=
  fun _ => .refl _ _

protected theorem bind (h : Confined own action) (hnext : ∀ a, Confined own (next a)) :
    Confined own (action >>= next) := by
  intro s
  have hfirst := h s
  rw [exec_bind]
  rcases hrun : exec action s with ⟨_ | a, s'⟩
  · rw [hrun] at hfirst
    exact hfirst
  · rw [hrun] at hfirst
    exact hfirst.trans (hnext a s')

private theorem still_bind (h : Still action) (hnext : ∀ a, Confined own (next a)) :
    Confined own (action >>= next) := (of_still h).bind hnext

/-- What an action does in a scope that it opens is confined to that scope. -/
theorem openScope_bind {scope : ScopeId} {next : ScopeId → BindM FrameTable β}
    (hnext : ∀ inner, Confined (some inner) (next inner)) :
    Confined own (BindM.openScope scope >>= next) := by
  intro s
  have hinner := hnext (s.world.scopes.child scope).1
    { s with world.scopes := (s.world.scopes.child scope).2 }
  exact hinner.left

private theorem traced {name : Bytes} (h : Confined own action) :
    Confined own (BindM.traced name action) := by
  intro s
  obtain ⟨start, hstart, -, hworld⟩ := exec_traced name action s
  rw [hworld, ← hstart]
  exact h start

end Confined

/-- Among the frames that are there, the action changes at most that of the scope, and only if it
succeeds, by binding the name to its result. -/
def BindsName (scope : ScopeId) (name : Bytes) (action : BindM FrameTable NodeId) : Prop :=
  ∀ s, FrameTable.Spares none (s.world.scopes.named scope name (exec action s).1)
    (exec action s).2.world.scopes

namespace BindsName

variable {scope : ScopeId} {name : Bytes}

protected theorem bind {action : BindM FrameTable α} {next : α → BindM FrameTable NodeId}
    (h : Confined none action) (hnext : ∀ a, BindsName scope name (next a)) :
    BindsName scope name (action >>= next) := by
  intro s
  have hfirst := h s
  rw [exec_bind]
  rcases hrun : exec action s with ⟨_ | a, s'⟩
  · rw [hrun] at hfirst
    exact hfirst
  · rw [hrun] at hfirst
    exact (hfirst.named_both name _).trans (hnext a s')

private theorem declare (id : NodeId) :
    BindsName scope name (do BindM.declare scope name id; return id) := fun _ => .refl _ _

private theorem traced {label : Bytes} {action : BindM FrameTable NodeId}
    (h : BindsName scope name action) :
    BindsName scope name (BindM.traced label action) := by
  intro s
  obtain ⟨start, hstart, hresult, hworld⟩ := exec_traced label action s
  rw [hresult, hworld, ← hstart]
  exact h start

end BindsName

end BindM

open BindM (Confined BindsName)

def Part.Confined (p : Part FrameTable) : Prop :=
  ∀ scope hint, BindM.Confined (some scope) (p.bind scope hint)

namespace Binder

variable {own : Option ScopeId} {scope : ScopeId} {hint : Hint} {h : ExprHead}
  {p type value body : Part FrameTable} {list : List (Part FrameTable)}

private theorem evaluate_still (id : NodeId) (span : Span) :
    Still (evaluate id span : BindM FrameTable Value) := by
  refine .bind (.ask _) fun outcome => ?_
  cases outcome with
  | ok value => exact .pure value
  | error reason => exact .fail _ _ _

private theorem typeValue_still (id : NodeId) (span : Span) (use : TypeUse) :
    Still (typeValue id span use : BindM FrameTable TyId) := by
  refine .bind (requireConstant_still _ _ _) fun _ => ?_
  refine .bind (.typeOf id) fun type => .bind (requireTypeOfTypes_still type span use) fun _ => ?_
  refine .bind (evaluate_still id span) fun value => ?_
  cases value with
  | type denoted => exact .pure denoted
  | _ => exact .fail _ _ _

private theorem typeDenoted_confined (hp : p.Confined) (use : TypeUse) :
    Confined own (typeDenoted p scope use) := by
  refine .openScope_bind fun inner => .still_bind (.primitive .type) fun type => ?_
  exact .bind (hp inner (some type)) fun id => .of_still (typeValue_still id p.span use)

private theorem ascription_confined (htype : type.Confined) :
    Confined own (ascription h type scope) := by
  unfold ascription
  split
  · exact .of_still (.pure none)
  · exact .bind (typeDenoted_confined htype _) fun denoted => .of_still (.pure (some denoted))

private theorem blockEntries_confined (hlist : ∀ p ∈ list, p.Confined) :
    Confined (some scope) (blockEntries list scope hint) := by
  induction list with
  | nil => exact .of_still (.pure [])
  | cons p rest ih =>
    have hp : p.Confined := hlist p List.mem_cons_self
    cases rest with
    | nil => exact .bind (hp scope hint) fun id => .of_still (.pure [id])
    | cons q rest =>
      refine .bind (hp scope none) fun id => ?_
      refine .bind (ih fun r hr => hlist r (List.mem_cons_of_mem _ hr)) fun ids => ?_
      exact .of_still (.pure (id :: ids))

private theorem block_confined (hlist : ∀ p ∈ list, p.Confined) :
    Confined own (block h list scope hint) := by
  refine .openScope_bind fun inner => .bind (blockEntries_confined hlist) fun ids => ?_
  exact .still_bind (blockType_still ids hint) fun type => .make _ _

private theorem constantValue_confined (htype : type.Confined) (hvalue : value.Confined) :
    Confined own (constantValue h type value scope hint) := by
  refine .bind (ascription_confined htype) fun annotated => ?_
  refine .openScope_bind fun inner => .bind (hvalue inner (annotated <|> hint)) fun id => ?_
  refine .still_bind (requireConstant_still _ _ _) fun _ => ?_
  refine .still_bind (.typeOf id) fun actual => ?_
  refine .still_bind (requireAscribed_still _ _ _) fun _ => ?_
  exact .still_bind (evaluate_still id value.span) fun result => .of_still (.pure (actual, result))

private theorem initialValue_confined (hvalue : value.Confined) (annotated : Hint) :
    Confined own (initialValue h type value scope annotated) := by
  unfold initialValue
  split
  · exact .of_still (.pure none)
  · refine .openScope_bind fun inner => .bind (hvalue inner annotated) fun id => ?_
    refine .still_bind (.typeOf id) fun actual => ?_
    exact .still_bind (requireAscribed_still _ _ _) fun _ => .of_still (.pure (some id))

private theorem name_confined : Confined own (name h scope) := by
  refine .bind (.visible? scope h.name) fun found => ?_
  cases found with
  | some target => exact .still_bind (.ask _) fun _ => .make _ _
  | none => exact .of_still (.fail _ _ _)

private theorem intLit_confined : Confined own (intLit h hint) := by
  refine .still_bind (literalType_still hint) fun type => ?_
  dsimp only
  split
  · split
    · exact .make _ _
    · exact .of_still (.bind (.typeText _) fun _ => .fail _ _ _)
  · exact .of_still (.bind (.typeText _) fun _ => .fail _ _ _)

private theorem member_confined (hvalue : Confined own (value.bind scope none)) :
    Confined own (member h value scope) := by
  refine .bind hvalue fun operand => ?_
  refine .still_bind (.typeOf operand) fun type => .still_bind (.describe type) fun t => ?_
  split
  · split
    · exact .still_bind (.wrap _ _) fun _ => .make _ _
    · exact .still_bind (.primitive .uint) fun _ => .make _ _
    · exact .of_still (.bind (.typeText type) fun _ => .fail _ _ _)
  · exact .of_still (.bind (.typeText type) fun _ => .fail _ _ _)

private theorem parameters_confined (hlist : ∀ p ∈ list, p.Confined) (suggested : List TyId) :
    Confined (some scope) (parameters list scope suggested) := by
  induction list generalizing suggested with
  | nil => exact .of_still (.pure [])
  | cons p rest ih =>
    refine .still_bind (requireParameter_still p.expr) fun _ => ?_
    refine .bind (hlist p List.mem_cons_self scope suggested.head?) fun id => ?_
    refine .still_bind (.typeOf id) fun type => ?_
    refine .bind (ih (fun q hq => hlist q (List.mem_cons_of_mem _ hq)) _) fun others => ?_
    exact .of_still (.pure _)

private theorem procedure_confined (htype : type.Confined) (hbody : body.Confined)
    (hlist : ∀ p ∈ list, p.Confined) : Confined own (procedure h type body list scope hint) := by
  refine .openScope_bind fun inner => .still_bind (suggestedParams_still hint) fun suggested => ?_
  refine .bind (parameters_confined hlist suggested) fun params => ?_
  refine .bind (typeDenoted_confined htype .returnType) fun returns => ?_
  refine .bind (hbody inner (some returns)) fun id => .still_bind (.typeOf id) fun actual => ?_
  refine .still_bind (requireReturned_still actual returns) fun _ => ?_
  exact .still_bind (signatureType_still _ returns hint) fun signature => .make _ _

private theorem conversionArguments_confined (hlist : ∀ p ∈ list, p.Confined) :
    Confined own (conversionArguments list scope hint) := by
  induction list generalizing own with
  | nil => exact .of_still (.pure [])
  | cons p rest ih =>
    refine .openScope_bind fun inner => ?_
    refine .bind (hlist p List.mem_cons_self inner hint) fun id => ?_
    refine .bind (ih fun q hq => hlist q (List.mem_cons_of_mem _ hq)) fun ids => ?_
    exact .of_still (.pure (id :: ids))

private theorem conversion_confined (operand : NodeId) (hlist : ∀ p ∈ list, p.Confined) :
    Confined own (conversion h operand value list scope) := by
  refine .still_bind (typeValue_still operand value.span .conversionTarget) fun target => ?_
  refine .bind (conversionArguments_confined hlist) fun args => ?_
  split
  · next arg =>
    refine .still_bind (.typeOf arg) fun source => ?_
    split
    · exact .of_still (.pure arg)
    · refine .still_bind (.describe target) fun t => .still_bind (.describe source) fun r => ?_
      dsimp only
      split
      · exact .make _ _
      · exact .of_still (.bind (.typeText source) fun _ => .bind (.typeText target) fun _ =>
          .fail _ _ _)
  · exact .of_still (.bind (.typeText target) fun _ => .fail _ _ _)

private theorem invocationArguments_confined (hlist : ∀ p ∈ list, p.Confined) (position : Nat)
    (params : List TyId) : Confined own (invocationArguments position list params scope) := by
  induction list generalizing own position params with
  | nil => exact .of_still (.pure [])
  | cons p rest ih =>
    cases params with
    | nil => exact .of_still (.pure [])
    | cons expected params =>
      refine .openScope_bind fun inner => ?_
      refine .bind (hlist p List.mem_cons_self inner (some expected)) fun id => ?_
      refine .still_bind (.typeOf id) fun actual => ?_
      refine .still_bind (requireArgument_still position actual expected) fun _ => ?_
      refine .bind (ih (fun q hq => hlist q (List.mem_cons_of_mem _ hq)) _ _) fun ids => ?_
      exact .of_still (.pure (id :: ids))

private theorem invocation_confined (operand : NodeId) (params : List TyId) (result : TyId)
    (hlist : ∀ p ∈ list, p.Confined) :
    Confined own (invocation h operand list params result scope) := by
  unfold invocation
  split
  · exact .bind (invocationArguments_confined hlist 1 params) fun args => .make _ _
  · exact .of_still (.bind (.typeOf operand) fun type => .bind (.typeText type) fun _ =>
      .fail _ _ _)

private theorem call_confined (hvalue : Confined own (value.bind scope none))
    (hlist : ∀ p ∈ list, p.Confined) : Confined own (call h value list scope) := by
  refine .bind hvalue fun operand => ?_
  refine .still_bind (.typeOf operand) fun type => .still_bind (.describe type) fun t => ?_
  split
  · exact conversion_confined operand hlist
  · exact invocation_confined operand _ _ hlist
  · exact .of_still (.bind (.typeText type) fun _ => .fail _ _ _)

private theorem wrapperType_confined (w : Wrapper) (htype : type.Confined) :
    Confined own (wrapperType w h type scope hint) := by
  refine .bind (typeDenoted_confined htype .elementType) fun elem => ?_
  refine .still_bind (.wrap w elem) fun denoted => ?_
  exact .still_bind (hintedPrimitive_still .type hint) fun type => .make _ _

/-- A constant binds its name when nothing can fail any more. -/
theorem constant_names (htype : type.Confined) (hvalue : value.Confined) :
    BindsName scope h.name (constant h type value scope hint) := by
  rw [constant_eq]
  refine .bind (constantValue_confined htype hvalue) fun found => ?_
  exact .bind (.make _ _) fun made => .declare made

private theorem declaration_names (htype : type.Confined) (hvalue : value.Confined) :
    BindsName scope h.name (declaration h type value scope hint) := by
  refine .bind (ascription_confined htype) fun annotated => ?_
  refine .bind (initialValue_confined hvalue annotated) fun init => ?_
  refine .bind (.of_still (declaredType_still annotated hint init)) fun own => ?_
  exact .bind (.make _ _) fun made => .declare made

private theorem expr_confined (hkind : h.kind ≠ .constant ∧ h.kind ≠ .declaration)
    (htype : type.Confined) (hvalue : value.Confined) (hbody : body.Confined)
    (hlist : ∀ p ∈ list, p.Confined)
    (hoperand : h.kind = .member ∨ h.kind = .call → Confined own (value.bind scope none)) :
    Confined own (expr h type value body list scope hint) := by
  unfold expr
  generalize h.kind = kind at hkind hoperand
  cases kind with
  | constant => exact absurd rfl hkind.1
  | declaration => exact absurd rfl hkind.2
  | block => exact block_confined hlist
  | name => exact name_confined
  | intLit => exact intLit_confined
  | paren => exact .openScope_bind fun inner => hvalue inner hint
  | member => exact member_confined (hoperand (.inl rfl))
  | procedure => exact procedure_confined htype hbody hlist
  | call => exact call_confined (hoperand (.inr rfl)) hlist
  | sliceType | multipointerType | pointerType => exact wrapperType_confined _ htype
  | structType | arrayType | procedureType | invalid | unlisted =>
    exact .of_still (.fail _ _ _)

end Binder

structure Part.OwnFrame (p : Part FrameTable) : Prop where
  binding : p.expr.isBinding = true → ∀ scope hint,
    BindsName scope p.expr.head.name (p.bind scope hint)
  plain : p.expr.isBinding = false → ∀ scope hint, BindM.Confined none (p.bind scope hint)

private theorem Part.OwnFrame.confined {p : Part FrameTable} (h : p.OwnFrame) : p.Confined := by
  intro scope hint
  cases hbinding : p.expr.isBinding with
  | false => exact (h.plain hbinding scope hint).weaken
  | true =>
    intro s
    exact (FrameTable.Spares.named _ _ _ _).trans ((h.binding hbinding scope hint s).weaken _)

namespace Expr

mutual

/-- The induction is on the tree; only operands are bound in the scope of the node itself. -/
theorem bind_ownFrame : (e : Expr) → e.PlainOperands → Part.OwnFrame ⟨e, e.bind⟩
  | absent, _ =>
    ⟨fun hbinding => absurd hbinding Bool.false_ne_true, fun _ _ _ => .of_still (.throw _)⟩
  | node h type value body list, hplain => by
    obtain ⟨hoperand, htype, hvalue, hbody, hlist⟩ := hplain
    have htype' := (bind_ownFrame type htype).confined
    have hvalue' := bind_ownFrame value hvalue
    have hbody' := (bind_ownFrame body hbody).confined
    have hlist' := bindParts_confined list hlist
    refine ⟨fun hbinding scope hint => .traced ?_, fun hbinding scope hint => .traced ?_⟩
    · have hkind : h.kind = .constant ∨ h.kind = .declaration := (isBinding_iff _).mp hbinding
      rcases hkind with hkind | hkind
      · simp only [Binder.expr, hkind]
        exact Binder.constant_names htype' hvalue'.confined
      · simp only [Binder.expr, hkind]
        exact Binder.declaration_names htype' hvalue'.confined
    · have hkind : h.kind ≠ .constant ∧ h.kind ≠ .declaration := by
        simpa [isBinding, kind, head] using hbinding
      exact Binder.expr_confined hkind htype' hvalue'.confined hbody' hlist' fun happlied =>
        hvalue'.plain (hoperand happlied) scope none

private theorem bindParts_confined :
    (list : List Expr) → AllPlainOperands list → ∀ p ∈ bindParts list, p.Confined
  | [], _ => by simp [bindParts]
  | e :: rest, hplain => by
    rw [bindParts, List.forall_mem_cons]
    exact ⟨(bind_ownFrame e hplain.1).confined, bindParts_confined rest hplain.2⟩

end

end Expr

/-! ### Nodes and types that are there -/

namespace TypeStore

private theorem wrap_extends (s : TypeStore) (w : Wrapper) (elem : TyId) :
    s.toArena.Extends (s.wrap w elem).2.toArena := by
  unfold wrap
  split
  · exact .refl _
  · split
    · exact .refl _
    · have harena (id : TyId) (s : TypeStore) : (s.keepWrapped w elem id).toArena = s.toArena := by
        cases w <;> rfl
      rw [harena]
      exact Arena.insert_extends s.toArena _

private theorem procedure_extends (s : TypeStore) (params : List TyId) (result : TyId) :
    s.toArena.Extends (s.procedure params result).2.toArena := by
  unfold procedure
  split
  · exact .refl _
  · next key _ =>
    have hopen : (s.openTable key).2.toArena = s.toArena := by
      unfold openTable
      split <;> rfl
    dsimp only
    split
    · exact hopen ▸ .refl _
    · split
      · exact hopen ▸ .refl _
      · rw [← hopen]
        exact Arena.insert_extends (s.openTable key).2.toArena _

end TypeStore

namespace BindM

/-- Binding adds nodes and types and changes none, in whatever state it starts. -/
theorem Built.grows {τ : Type} [ScopeStore τ] {α : Type} {action : BindM τ α} (h : Built action)
    (s : BindState τ) : s.world.graph.Extends (exec action s).2.world.graph ∧
      s.world.types.toArena.Extends (exec action s).2.world.types.toArena := by
  induction h generalizing s with
  | pure | throw | fail | primitive | openScope | visible? | declare =>
    exact ⟨.refl _, .refl _⟩
  | ask answer =>
    rw [← bind_pure (BindM.ask answer), exec_ask_bind]
    cases answer s.world <;> exact ⟨.refl _, .refl _⟩
  | wrap w elem =>
    rw [BindM.wrap, exec_intern]
    exact ⟨.refl _, s.world.types.wrap_extends w elem⟩
  | procedureType params result =>
    rw [BindM.procedureType, exec_intern]
    exact ⟨.refl _, s.world.types.procedure_extends params result⟩
  | make span shape => exact ⟨Arena.insert_extends _ _, .refl _⟩
  | @bind _ _ action next _ _ ih ih' =>
    obtain ⟨hgraph, htypes⟩ := ih s
    rw [exec_bind]
    rcases hrun : exec action s with ⟨_ | a, t⟩
    · rw [hrun] at hgraph htypes
      exact ⟨hgraph, htypes⟩
    · rw [hrun] at hgraph htypes
      obtain ⟨hgraph', htypes'⟩ := ih' a t
      exact ⟨hgraph.trans hgraph', htypes.trans htypes'⟩
  | traced name _ ih =>
    obtain ⟨t, ht, -, hworld⟩ := exec_traced name _ s
    rw [hworld, ← ht]
    exact ih t

end BindM

/-- Binding an expression of a file changes no node, no type and no frame that was there, in
whatever state and scope it starts and whether or not it succeeds. The only exception are constants
and declarations: if they are bound, their own scope gets their name for the new node. -/
theorem SourceFile.bind_changes_own_name (f : SourceFile) {item e : Expr}
    (hitem : item ∈ f.parse.file.items) (hpart : e.PartOf item) (scope : ScopeId) (hint : Hint)
    (s : BindState FrameTable) :
    let r := (e.bind scope hint).exec s
    let expected :=
      if e.kind = .constant ∨ e.kind = .declaration then
        s.world.scopes.named scope e.head.name r.1
      else s.world.scopes
    s.world.graph.Extends r.2.world.graph ∧
    s.world.types.toArena.Extends r.2.world.types.toArena ∧
    s.world.scopes.frames.size ≤ r.2.world.scopes.frames.size ∧
    ∀ i < s.world.scopes.frames.size,
      r.2.world.scopes.frames[i]? = expected.frames[i]? := by
  intro r expected
  obtain ⟨_, _, hderived⟩ := Syntax.items_derived _ item hitem
  have hplain : e.PlainOperands :=
    hpart.plainOperands (item.plainOperands_bare.mp hderived.plainOperands)
  have hown := e.bind_ownFrame hplain
  obtain ⟨hgraph, htypes⟩ := (e.bind_built scope hint).grows s
  have hspares : FrameTable.Spares none expected r.2.world.scopes := by
    by_cases hbinding : e.isBinding = true
    · simp only [expected, if_pos (e.isBinding_iff.mp hbinding)]
      exact hown.binding hbinding scope hint s
    · simp only [expected, if_neg (mt e.isBinding_iff.mpr hbinding)]
      exact hown.plain (by simpa using hbinding) scope hint s
  have hsize : expected.frames.size = s.world.scopes.frames.size := by
    simp only [expected]
    split
    · exact FrameTable.named_size _ _ _ _
    · rfl
  exact ⟨hgraph, htypes, hsize ▸ hspares.size, fun i hi =>
    hspares.frames i (hsize ▸ hi) (by simp)⟩

/-- A procedure and a constant without a value, bound in a universe that holds the procedure
already. The first one replaces the node of its name, the second one leaves no trace. -/
theorem SourceFile.bind_changes_own_name_again :
    let items := SyntaxFile.InParts.source.parse.file.items
    let same := items.getD 1 .absent
    let three := items.getD 2 .absent
    let s := SyntaxFile.InParts.used
    let bound := (same.bind Universe.root none).exec s
    let failed := (three.bind Universe.root none).exec s
    (same ∈ items ∧ three ∈ items ∧ bound.1 = .ok ⟨1, 22⟩ ∧ failed.1.isOk = false) ∧
    (∀ i < s.world.scopes.frames.size, bound.2.world.scopes.frames[i]? =
      (s.world.scopes.insert Universe.root "same" ⟨1, 22⟩).frames[i]?) ∧
    ∀ i < s.world.scopes.frames.size,
      failed.2.world.scopes.frames[i]? = s.world.scopes.frames[i]? := by
  intro items same three s bound failed
  have hlength : items.length = 3 := by decide +kernel
  have hitem (i : Nat) (hi : i < 3) : items.getD i .absent ∈ items := by
    rw [List.getD_eq_getElem _ _ (hlength ▸ hi)]
    exact List.getElem_mem _
  have hkinds : same.kind = .constant ∧ three.kind = .constant := by decide +kernel
  have hname : same.head.name = "same" := by decide +kernel
  have hbound : bound.1 = .ok ⟨1, 22⟩ := Outcome.eq_ok_of_toOption (by decide +kernel)
  have hfailed : failed.1.isOk = false := by decide +kernel
  refine ⟨⟨hitem 1 (by decide), hitem 2 (by decide), hbound, hfailed⟩, ?_, ?_⟩
  · obtain ⟨-, -, -, hframes⟩ :=
      bind_changes_own_name _ (hitem 1 (by decide)) .refl Universe.root none s
    intro i hi
    rw [hframes i hi, if_pos (.inl hkinds.1), hname, hbound]
    rfl
  · obtain ⟨-, -, -, hframes⟩ :=
      bind_changes_own_name _ (hitem 2 (by decide)) .refl Universe.root none s
    intro i hi
    rw [hframes i hi, if_pos (.inl hkinds.2)]
    cases hresult : failed.1 with
    | ok id => simp [hresult, Except.isOk, Except.toBool] at hfailed
    | error e => rfl

end Keywordless
