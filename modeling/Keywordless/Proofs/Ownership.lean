import Keywordless.Proofs.GraphWalk

/-!
# Who owns a declaration

A declaration belongs to the procedure whose parameter it is or whose body it stands in. What a node
is made of is followed through blocks, calls, initial values, bodies and constants that hold a
procedure, but not from a name to what it denotes; so a node may use a declaration that no procedure
below it owns. Such uses are what this module keeps track of.
-/

namespace Keywordless

namespace Shape

/-- What a node is made of. A name is not made of what it denotes. -/
def parts : Shape → List NodeId
  | name _ => []
  | shape => shape.edges

def operands : Shape → List NodeId
  | constant .. | procedure .. => []
  | shape => shape.parts

theorem parts_eq_operands {shape : Shape} (h : shape.kind ∉ [.constant, .procedure]) :
    shape.parts = shape.operands := by
  cases shape with
  | constant | procedure => simp [kind] at h
  | _ => rfl

theorem operands_constant {shape : Shape} (h : shape.kind = .constant) : shape.operands = [] := by
  cases shape with
  | constant => rfl
  | _ => cases h

end Shape

namespace Graph

variable {g g' : Graph} {x y n d p q : NodeId} {node : Node}

def HasPart (g : Graph) (x y : NodeId) : Prop := ∃ node, g.get? x = some node ∧ y ∈ node.shape.parts

def HasOperand (g : Graph) (x y : NodeId) : Prop :=
  ∃ node, g.get? x = some node ∧ y ∈ node.shape.operands

def Reaches (g : Graph) : NodeId → NodeId → Prop := Relation.ReflTransGen g.HasPart

/-- The second node is the first one or below it in the same procedure. -/
def Within (g : Graph) : NodeId → NodeId → Prop := Relation.ReflTransGen g.HasOperand

def IsDeclaration (g : Graph) (d : NodeId) : Prop :=
  ∃ span name type init, g.get? d = some ⟨span, .declaration name type init⟩

/-- The declaration is a parameter or a local of the procedure. -/
def Owns (g : Graph) (q d : NodeId) : Prop :=
  ∃ span params returns type body, g.get? q = some ⟨span, .procedure params returns type body⟩ ∧
    ∃ x ∈ params ++ [body], g.Within x d

def Uses (g : Graph) (x d : NodeId) : Prop :=
  g.IsDeclaration d ∧ ∃ n span, g.Reaches x n ∧ g.get? n = some ⟨span, .name d⟩

def Encloses (g : Graph) (q p : NodeId) : Prop :=
  q ≠ p ∧ ∃ outer inner, g.get? q = some outer ∧ g.get? p = some inner ∧
    outer.span.file = inner.span.file ∧ outer.span.start ≤ inner.span.start ∧
    inner.span.stop ≤ outer.span.stop

private theorem HasPart.reaches (hx : g.get? x = some node) (hy : y ∈ node.shape.parts)
    (h : g.Reaches y n) : g.Reaches x n :=
  .head ⟨node, hx, hy⟩ h

theorem HasOperand.within (hx : g.get? x = some node) (hy : y ∈ node.shape.operands)
    (h : g.Within y n) : g.Within x n :=
  .head ⟨node, hx, hy⟩ h

theorem Reaches.cases (h : g.Reaches x n) (hx : g.get? x = some node) :
    n = x ∨ ∃ y ∈ node.shape.parts, g.Reaches y n := by
  rcases Relation.ReflTransGen.cases_head h with rfl | ⟨y, ⟨found, hfound, hy⟩, hn⟩
  · exact .inl rfl
  · obtain rfl : found = node := Option.some.inj (hfound.symm.trans hx)
    exact .inr ⟨y, hy, hn⟩

theorem Within.cases (h : g.Within x n) (hx : g.get? x = some node) :
    n = x ∨ ∃ y ∈ node.shape.operands, g.Within y n := by
  rcases Relation.ReflTransGen.cases_head h with rfl | ⟨y, ⟨found, hfound, hy⟩, hn⟩
  · exact .inl rfl
  · obtain rfl : found = node := Option.some.inj (hfound.symm.trans hx)
    exact .inr ⟨y, hy, hn⟩

theorem Within.eq_of_leaf (h : g.Within x n) (hx : g.get? x = some node)
    (hleaf : node.shape.operands = []) : n = x := by
  rcases h.cases hx with rfl | ⟨y, hy, -⟩
  · rfl
  · simp [hleaf] at hy

/-- Every declaration that the node uses belongs to a procedure below it, or is an open one. -/
def Closed (g : Graph) (opened : NodeId → Prop) (x : NodeId) : Prop :=
  ∀ d, g.Uses x d → (∃ q, g.Reaches x q ∧ g.Owns q d) ∨ opened d

/-- The same, where the declaration may also belong to a procedure around the node. -/
def Settled (g : Graph) (opened : NodeId → Prop) (p : NodeId) : Prop :=
  ∀ d, g.Uses p d → (∃ q, g.Owns q d ∧ (g.Reaches p q ∨ g.Encloses q p)) ∨ opened d

variable {opened opened' : NodeId → Prop}

theorem Closed.mono (h : g.Closed opened x)
    (himp : ∀ d, g.IsDeclaration d → opened d → opened' d) : g.Closed opened' x := by
  intro d hd
  exact (h d hd).imp_right (himp d hd.1)

theorem Settled.mono (h : g.Settled opened p)
    (himp : ∀ d, g.IsDeclaration d → opened d → opened' d) : g.Settled opened' p := by
  intro d hd
  exact (h d hd).imp_right (himp d hd.1)

theorem Closed.settled (h : g.Closed opened p) : g.Settled opened p := by
  intro d hd
  rcases h d hd with ⟨q, hreach, howns⟩ | hopened
  · exact .inl ⟨q, howns, .inl hreach⟩
  · exact .inr hopened

theorem Closed.of_parts (hx : g.get? x = some node) (hname : ∀ target, node.shape ≠ .name target)
    (h : ∀ y ∈ node.shape.parts, g.Closed opened y) : g.Closed opened x := by
  rintro d ⟨hd, n, span, hreach, hn⟩
  rcases hreach.cases hx with rfl | ⟨y, hy, hbelow⟩
  · obtain rfl : (⟨span, .name d⟩ : Node) = node := Option.some.inj (hn.symm.trans hx)
    exact absurd rfl (hname d)
  · rcases h y hy d ⟨hd, n, span, hbelow, hn⟩ with ⟨q, hq, howns⟩ | hopened
    · exact .inl ⟨q, HasPart.reaches hx hy hq, howns⟩
    · exact .inr hopened

theorem Closed.of_name {span : Span} {target : NodeId} (hx : g.get? x = some ⟨span, .name target⟩)
    (h : g.IsDeclaration target → opened target) : g.Closed opened x := by
  rintro d ⟨hd, n, span', hreach, hn⟩
  rcases hreach.cases hx with rfl | ⟨y, hy, -⟩
  · have heq : (⟨span', .name d⟩ : Node) = ⟨span, .name target⟩ :=
      Option.some.inj (hn.symm.trans hx)
    obtain ⟨-, rfl⟩ : span' = span ∧ d = target := by simpa using heq
    exact .inr (h hd)
  · cases hy

/-- A procedure takes its parameters and locals off the list of open ones. -/
theorem Closed.of_procedure {span : Span} {params : List NodeId} {returns type : TyId}
    {body : NodeId} (hq : g.get? q = some ⟨span, .procedure params returns type body⟩)
    (h : ∀ y ∈ params ++ [body], g.Closed (fun d => opened d ∨ g.Owns q d) y) :
    g.Closed opened q := by
  have hparts : g.Closed (fun d => opened d ∨ g.Owns q d) q := by
    refine .of_parts hq ?_ h
    intro target
    exact Shape.noConfusion
  intro d hd
  rcases hparts d hd with hbelow | hopened | howns
  · exact .inl hbelow
  · exact .inr hopened
  · exact .inl ⟨q, .refl, howns⟩

theorem Settled.enclosed (h : g.Settled (fun d => opened d ∨ g.Owns q d) p)
    (hq : g.Encloses q p) : g.Settled opened p := by
  intro d hd
  rcases h d hd with hdone | hopened | howns
  · exact .inl hdone
  · exact .inr hopened
  · exact .inl ⟨q, howns, .inr hq⟩

inductive Gives (g : Graph) : NodeId → NodeId → Prop
  | procedure {q : NodeId} {span : Span} {params : List NodeId} {returns type : TyId}
      {body : NodeId} (h : g.get? q = some ⟨span, .procedure params returns type body⟩) :
      Gives g q q
  | constant {x q : NodeId} {span : Span} {name : Bytes} {type : TyId}
      (h : g.get? x = some ⟨span, .constant name type (.procedure q)⟩) : Gives g x q
  | name {x target q : NodeId} {span : Span} (h : g.get? x = some ⟨span, .name target⟩)
      (htarget : Gives g target q) : Gives g x q

theorem Gives.kept (hgrow : g.Extends g') (h : g.Gives x q) : g'.Gives x q := by
  induction h with
  | procedure h => exact .procedure (hgrow.kept h)
  | constant h => exact .constant (hgrow.kept h)
  | name h _ ih => exact .name (hgrow.kept h) ih

theorem Gives.cases (h : g.Gives x q) (hx : g.get? x = some node) :
    (node.shape.kind = .procedure ∧ q = x) ∨
      (∃ name type, node.shape = .constant name type (.procedure q)) ∨
        ∃ target, node.shape = .name target ∧ g.Gives target q := by
  cases h with
  | procedure h =>
    rw [h] at hx
    obtain rfl := Option.some.inj hx
    exact .inl ⟨rfl, rfl⟩
  | constant h =>
    rw [h] at hx
    obtain rfl := Option.some.inj hx
    exact .inr (.inl ⟨_, _, rfl⟩)
  | name h htarget =>
    rw [h] at hx
    obtain rfl := Option.some.inj hx
    exact .inr (.inr ⟨_, rfl, htarget⟩)

private theorem gives_of_referentWithin {steps : Nat} {last : NodeId} {found : Node}
    (hwalk : g.referentWithin steps x = .ok (last, found))
    (hvalue : valueAt last found = .ok (.ok (.procedure q))) : g.Gives x q := by
  induction steps generalizing x with
  | zero => cases hwalk
  | succ steps ih =>
    obtain ⟨node, hnode, hwalk⟩ := Outcome.bind_eq_ok.mp hwalk
    have hx := (Arena.get_eq_ok_iff g x node).mp hnode
    obtain ⟨span, shape⟩ := node
    cases shape with
    | name target => exact .name hx (ih hwalk)
    | constant name type value =>
      obtain ⟨rfl, rfl⟩ := Prod.mk.inj (Except.ok.inj hwalk)
      obtain rfl : value = .procedure q := Except.ok.inj (Except.ok.inj hvalue)
      exact .constant hx
    | procedure params returns type body =>
      obtain ⟨rfl, rfl⟩ := Prod.mk.inj (Except.ok.inj hwalk)
      obtain rfl : x = q := by simpa [valueAt, pure, Except.pure] using hvalue
      exact .procedure hx
    | _ =>
      obtain ⟨rfl, rfl⟩ := Prod.mk.inj (Except.ok.inj hwalk)
      simp [valueAt, pure, Except.pure] at hvalue

theorem gives_of_evaluate (h : g.evaluate x = .ok (.ok (.procedure q))) : g.Gives x q := by
  obtain ⟨constant, -, h⟩ := Outcome.bind_eq_ok.mp h
  cases constant with
  | false => cases h
  | true =>
    obtain ⟨⟨last, found⟩, hwalk, hvalue⟩ := Outcome.bind_eq_ok.mp h
    exact gives_of_referentWithin hwalk hvalue

/-- What can be evaluated has no operands and is no declaration. -/
theorem leaf_of_evaluate {value : Value} (h : g.evaluate x = .ok (.ok value)) :
    ∃ node, g.get? x = some node ∧ node.shape.operands = [] ∧ node.shape.kind ≠ .declaration := by
  obtain ⟨constant, -, h⟩ := Outcome.bind_eq_ok.mp h
  cases constant with
  | false => cases h
  | true =>
    obtain ⟨⟨last, found⟩, hwalk, hvalue⟩ := Outcome.bind_eq_ok.mp h
    obtain ⟨node, hnode, hwalk⟩ := Outcome.bind_eq_ok.mp hwalk
    refine ⟨node, (Arena.get_eq_ok_iff g x node).mp hnode, ?_⟩
    obtain ⟨span, shape⟩ := node
    cases shape with
    | name | constant | typeLiteral | procedure | invalid | unlisted =>
      exact ⟨rfl, by simp [Shape.kind]⟩
    | _ =>
      obtain ⟨rfl, rfl⟩ := Prod.mk.inj (Except.ok.inj hwalk)
      simp [valueAt, pure, Except.pure] at hvalue

end Graph

end Keywordless
