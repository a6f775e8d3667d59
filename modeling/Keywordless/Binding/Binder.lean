import Keywordless.Binding.Action
import Keywordless.Binding.Dialect
import Keywordless.Syntax.Basic

/-!
# Binding

Binding turns an expression into a node. It happens in a scope and under a hint, the type that the
context expects. The hint types integer literals, the parameters of a procedure and declarations
without a type; it is never enforced here.
-/

namespace Keywordless

abbrev Hint := Option TyId

structure Part (τ : Type) where
  expr : Expr
  bind : ScopeId → Hint → BindM τ NodeId

namespace Part

variable {τ : Type}

def span (p : Part τ) : Span := p.expr.span

end Part

namespace Binder

variable {τ : Type} [ScopeStore τ]

def evaluate (id : NodeId) (span : Span) : BindM τ Value := do
  match ← BindM.ask fun u => u.graph.evaluate id with
  | .ok value => return value
  | .error reason => BindM.fail (.unevaluated reason) span

def requireConstant (id : NodeId) (problem : BindProblem) (span : Span) : BindM τ Unit := do
  if ← BindM.isConstant id then return () else BindM.fail problem span

def requireTypeOfTypes (type : TyId) (span : Span) (use : TypeUse) : BindM τ Unit := do
  if (← BindM.describe type).kind = .primitive .type then return ()
  else BindM.fail (.notAType use (← BindM.typeText type)) span

def typeValue (id : NodeId) (span : Span) (use : TypeUse) : BindM τ TyId := do
  requireConstant id (.runtimeType use) span
  requireTypeOfTypes (← BindM.typeOf id) span use
  match ← evaluate id span with
  | .type denoted => return denoted
  | value => BindM.fail (.notATypeValue use value) span

def typeDenoted (p : Part τ) (scope : ScopeId) (use : TypeUse) : BindM τ TyId := do
  let id ← p.bind (← BindM.openScope scope) (some (← BindM.primitive .type))
  typeValue id p.span use

def ascription (h : ExprHead) (type : Part τ) (scope : ScopeId) : BindM τ Hint :=
  if type.expr.isAbsent then return none
  else return some (← typeDenoted type scope (.ascription h.name))

/-- Binds the entries of a block in its scope. The last one gets the hint of the block. -/
def blockEntries : List (Part τ) → ScopeId → Hint → BindM τ (List NodeId)
  | [], _, _ => return []
  | [p], scope, hint => return [← p.bind scope hint]
  | p :: rest, scope, hint => do
    let id ← p.bind scope none
    return id :: (← blockEntries rest scope hint)

/-- The hint if it is the given primitive type, else the handle of that type. -/
def hintedPrimitive (p : Primitive) (hint : Hint) : BindM τ TyId := do
  match hint with
  | some id =>
    if (← BindM.describe id).kind = .primitive p then return id else BindM.primitive p
  | none => BindM.primitive p

def blockType (ids : List NodeId) (hint : Hint) : BindM τ TyId :=
  match ids.getLast? with
  | some last => BindM.typeOf last
  | none => hintedPrimitive .void hint

def block (h : ExprHead) (list : List (Part τ)) (scope : ScopeId) (hint : Hint) :
    BindM τ NodeId := do
  let ids ← blockEntries list (← BindM.openScope scope) hint
  BindM.make h.span (.block ids (← blockType ids hint))

def requireAscribed (annotated : Hint) (actual : TyId) (problem : Bytes → Bytes → BindProblem)
    (type value : Part τ) : BindM τ Unit := do
  match annotated with
  | none => return ()
  | some declared =>
    if actual = declared then return ()
    else
      let problem := problem (← BindM.typeText declared) (← BindM.typeText actual)
      BindM.fail problem value.span [⟨type.span, "declared type"⟩]

/-- A constant has a value that is known at compile time. -/
def constant (h : ExprHead) (type value : Part τ) (scope : ScopeId) (hint : Hint) :
    BindM τ NodeId := do
  let annotated ← ascription h type scope
  let id ← value.bind (← BindM.openScope scope) (annotated <|> hint)
  requireConstant id (.runtimeValue h.name) value.span
  let actual ← BindM.typeOf id
  requireAscribed annotated actual (.constantMismatch h.name) type value
  let result ← evaluate id value.span
  let made ← BindM.make h.span (.constant h.name actual result)
  BindM.declare scope h.name made
  return made

def initialValue (h : ExprHead) (type value : Part τ) (scope : ScopeId) (annotated : Hint) :
    BindM τ (Option NodeId) := do
  if value.expr.isAbsent then return none
  else
    let id ← value.bind (← BindM.openScope scope) annotated
    requireAscribed annotated (← BindM.typeOf id) (.declarationMismatch h.name) type value
    return some id

/-- A declaration takes its type from its annotation, else from its value, else from the hint. -/
def declaredType (h : ExprHead) : Hint → Option NodeId → Hint → BindM τ TyId
  | some annotated, _, _ => return annotated
  | none, some init, _ => BindM.typeOf init
  | none, none, some hint => return hint
  | none, none, none => BindM.fail (.missingType h.name) h.span

def declaration (h : ExprHead) (type value : Part τ) (scope : ScopeId) (hint : Hint) :
    BindM τ NodeId := do
  let annotated ← ascription h type scope
  let init ← initialValue h type value scope annotated
  let type ← declaredType h annotated init hint
  let made ← BindM.make h.span (.declaration h.name type init)
  BindM.declare scope h.name made
  return made

def name (h : ExprHead) (scope : ScopeId) : BindM τ NodeId := do
  match ← BindM.visible? scope h.name with
  | some target =>
    let _ ← BindM.ask fun u => u.graph.get target
    BindM.make h.span (.name target)
  | none =>
    let notes := (ForeignKeyword.ofName? h.name).toList.map fun k => ⟨h.span, k.note⟩
    BindM.fail (.undefinedName h.name) h.span notes

def literalValue? (literal : Bytes) : Option Nat :=
  let digits := literal.filter (· != 0x5F)
  if digits.isEmpty || !digits.all Bytes.isDigit then none else some (Bytes.decimalValue digits)

/-- The type of an integer literal: the hint if it is an integer type, else `int`. -/
def literalType (hint : Hint) : BindM τ (TyId × Primitive) := do
  match hint with
  | some id =>
    match ← BindM.describe id with
    | .primitive p => if p.isInteger then return (id, p) else return (← BindM.primitive .int, .int)
    | _ => return (← BindM.primitive .int, .int)
  | none => return (← BindM.primitive .int, .int)

def intLit (h : ExprHead) (hint : Hint) : BindM τ NodeId := do
  let (type, p) ← literalType hint
  match literalValue? h.name with
  | some n =>
    if n ≤ p.largest then BindM.make h.span (.constant [] type (.int n))
    else BindM.fail (.integerOverflow h.name (← BindM.typeText type)) h.span
  | none => BindM.fail (.integerOverflow h.name (← BindM.typeText type)) h.span

def member (h : ExprHead) (value : Part τ) (scope : ScopeId) : BindM τ NodeId := do
  let operand ← value.bind scope none
  let type ← BindM.typeOf operand
  match ← BindM.describe type with
  | .wrapped .slice elem =>
    match SliceMember.ofName? h.name with
    | some .data => do
      BindM.make h.span (.member operand SliceMember.data.index (← BindM.wrap .multipointer elem))
    | some .length => do
      BindM.make h.span (.member operand SliceMember.length.index (← BindM.primitive .uint))
    | none => BindM.fail (.unknownMember (← BindM.typeText type) h.name) h.nameSpan
  | _ => BindM.fail (.noMembers (← BindM.typeText type)) h.span

def requireParameter : Expr → BindM τ Unit
  | .absent => throw (.fault (.unknownId 0))
  | .node h _ value _ _ =>
    if h.kind ≠ .declaration then BindM.fail .parameterNotDeclared h.span
    else if value.isAbsent then return ()
    else BindM.fail .defaultParameter value.span

def parameters : List (Part τ) → ScopeId → List TyId → BindM τ (List (NodeId × TyId))
  | [], _, _ => return []
  | p :: rest, scope, suggested => do
    requireParameter p.expr
    let id ← p.bind scope suggested.head?
    let type ← BindM.typeOf id
    return (id, type) :: (← parameters rest scope suggested.tail)

def suggestedParams : Hint → BindM τ (List TyId)
  | some id => return (← BindM.describe id).params
  | none => return []

/-- The type of a procedure: the hint if it has this signature, else the interned type. -/
def signatureType (params : List TyId) (returns : TyId) (hint : Hint) : BindM τ TyId := do
  match hint with
  | some id =>
    if ← BindM.ask fun u => u.types.isProcedure id params returns then return id
    else BindM.procedureType params returns
  | none => BindM.procedureType params returns

def requireReturned (actual returns : TyId) (type body : Part τ) : BindM τ Unit := do
  if actual = returns then return ()
  else
    let problem := .returnMismatch (← BindM.typeText actual) (← BindM.typeText returns)
    BindM.fail problem body.span [⟨type.span, "return type"⟩]

/-- Parameters and body share one scope. The body has to have the return type. -/
def procedure (h : ExprHead) (type body : Part τ) (list : List (Part τ)) (scope : ScopeId)
    (hint : Hint) : BindM τ NodeId := do
  let inner ← BindM.openScope scope
  let params ← parameters list inner (← suggestedParams hint)
  let returns ← typeDenoted type inner .returnType
  let bodyId ← body.bind inner (some returns)
  requireReturned (← BindM.typeOf bodyId) returns type body
  let own ← signatureType (params.map Prod.snd) returns hint
  BindM.make h.span (.procedure (params.map Prod.fst) returns own bodyId)

def conversionArguments : List (Part τ) → ScopeId → Hint → BindM τ (List NodeId)
  | [], _, _ => return []
  | p :: rest, scope, hint => do
    let id ← p.bind (← BindM.openScope scope) hint
    return id :: (← conversionArguments rest scope hint)

/-- A call of a type converts its argument. A type converts to itself, and `uint` to `int`. -/
def conversion (h : ExprHead) (operand : NodeId) (value : Part τ) (list : List (Part τ))
    (scope : ScopeId) : BindM τ NodeId := do
  let target ← typeValue operand value.span .conversionTarget
  let args ← conversionArguments list scope (if list.length = 1 then some target else none)
  match args with
  | [arg] =>
    let source ← BindM.typeOf arg
    if source = target then return arg
    let targetKind := (← BindM.describe target).kind
    let sourceKind := (← BindM.describe source).kind
    if targetKind = .primitive .int ∧ sourceKind = .primitive .uint then
      BindM.make h.span (.cast target [arg])
    else
      BindM.fail (.unsupportedConversion (← BindM.typeText source) (← BindM.typeText target)) h.span
  | _ => BindM.fail (.conversionArity (← BindM.typeText target) args.length) h.span

def requireArgument (position : Nat) (actual expected : TyId) (p : Part τ) : BindM τ Unit := do
  if actual = expected then return ()
  else
    let problem := .argumentMismatch position (← BindM.typeText actual) (← BindM.typeText expected)
    BindM.fail problem p.span

/-- Binds the arguments of an invocation, each in a scope of its own and under the type of its
parameter, which it has to have. Positions count from one. -/
def invocationArguments : Nat → List (Part τ) → List TyId → ScopeId → BindM τ (List NodeId)
  | position, p :: rest, expected :: params, scope => do
    let id ← p.bind (← BindM.openScope scope) (some expected)
    requireArgument position (← BindM.typeOf id) expected p
    return id :: (← invocationArguments (position + 1) rest params scope)
  | _, _, _, _ => return []

def invocation (h : ExprHead) (operand : NodeId) (list : List (Part τ)) (params : List TyId)
    (result : TyId) (scope : ScopeId) : BindM τ NodeId := do
  if list.length = params.length then
    let args ← invocationArguments 1 list params scope
    BindM.make h.span (.call operand args result)
  else
    let type ← BindM.typeText (← BindM.typeOf operand)
    BindM.fail (.procedureArity type params.length list.length) h.span

def call (h : ExprHead) (value : Part τ) (list : List (Part τ)) (scope : ScopeId) :
    BindM τ NodeId := do
  let operand ← value.bind scope none
  let type ← BindM.typeOf operand
  match ← BindM.describe type with
  | .primitive .type => conversion h operand value list scope
  | .procedure params result => invocation h operand list params result scope
  | _ => BindM.fail (.notCallable (← BindM.typeText type)) value.span

def wrapperType (w : Wrapper) (h : ExprHead) (type : Part τ) (scope : ScopeId) (hint : Hint) :
    BindM τ NodeId := do
  let elem ← typeDenoted type scope .elementType
  let denoted ← BindM.wrap w elem
  BindM.make h.span (.typeLiteral denoted (← hintedPrimitive .type hint))

/-- Binds a node whose parts know how to bind themselves. -/
def expr (h : ExprHead) (type value body : Part τ) (list : List (Part τ)) (scope : ScopeId)
    (hint : Hint) : BindM τ NodeId :=
  match h.kind with
  | .block => block h list scope hint
  | .constant => constant h type value scope hint
  | .declaration => declaration h type value scope hint
  | .name => name h scope
  | .intLit => intLit h hint
  | .paren => do value.bind (← BindM.openScope scope) hint
  | .member => member h value scope
  | .procedure => procedure h type body list scope hint
  | .call => call h value list scope
  | .sliceType => wrapperType .slice h type scope hint
  | .multipointerType => wrapperType .multipointer h type scope hint
  | .pointerType => wrapperType .pointer h type scope hint
  | .structType => BindM.fail .structType h.span
  | .arrayType => BindM.fail .arrayType h.span
  | .procedureType => BindM.fail .procedureType h.span
  | .invalid | .unlisted => BindM.fail (.unbindable h.kind.title) h.span

end Binder

namespace Expr

variable {τ : Type} [ScopeStore τ]

mutual

def bind : Expr → ScopeId → Hint → BindM τ NodeId
  | absent, _, _ => throw (.fault (.unknownId 0))
  | node h type value body list, scope, hint =>
    BindM.traced ("bind:" ++ h.kind.title) <|
      Binder.expr h ⟨type, bind type⟩ ⟨value, bind value⟩ ⟨body, bind body⟩ (bindParts list)
        scope hint

def bindParts : List Expr → List (Part τ)
  | [] => []
  | e :: rest => ⟨e, bind e⟩ :: bindParts rest

end

end Expr

namespace SyntaxFile

variable {τ : Type} [ScopeStore τ]

def requireItem : Expr → BindM τ Unit
  | .absent => throw (.fault (.unknownId 0))
  | .node h _ _ _ _ =>
    if h.kind = .constant then return () else BindM.fail .onlyConstants h.span

def bindItems : List Expr → BindM τ (List NodeId)
  | [] => return []
  | e :: rest => do
    requireItem e
    let id ← e.bind Universe.root none
    return id :: (← bindItems rest)

def bind (f : SyntaxFile) : BindM τ NodeId := do
  let ids ← bindItems f.items
  BindM.make ⟨f.span.file, 0, 0⟩ (.block ids (← BindM.primitive .void))

end SyntaxFile

end Keywordless
