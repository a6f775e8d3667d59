import Keywordless.Proofs.NestedSpans
import Keywordless.Proofs.ParserMoves
import Keywordless.Proofs.ParserSound

/-!
# Parsed trees are whole

Nodes are numbered as they are built, the parts of a node before the node and in source order. So
the numbers of a tree, listed in this order, go from one to the number of nodes that were built:
no node is lost, and none stands at two places. Each kind of node has the parts that it documents.
-/

namespace Keywordless

namespace ExprHead

def NamedBy (tokens : List Token) (h : ExprHead) : Prop :=
  ∃ t ∈ tokens, t.kind = .ident ∧ h.nameSpan = t.span ∧ h.name = t.text

def Unnamed (h : ExprHead) : Prop := h.nameSpan = {} ∧ h.name = []

def LiteralOf (tokens : List Token) (h : ExprHead) : Prop :=
  h.nameSpan = {} ∧ ∃ t ∈ tokens, t.kind = .intLit ∧ h.span = t.span ∧ h.name = t.text

end ExprHead

namespace Expr

def Binds (e : Expr) : Prop := e.kind = .constant ∨ e.kind = .declaration

/-- Every node of the expression has the parts that its kind documents, and no others. Names and
literals are those of the tokens. -/
inductive Documented (tokens : List Token) : Expr → Prop
  | name {h : ExprHead} (kind : h.kind = .name) (named : h.NamedBy tokens)
      (span : h.span = h.nameSpan) : Documented tokens (.node h .absent .absent .absent [])
  | intLit {h : ExprHead} (kind : h.kind = .intLit) (literal : h.LiteralOf tokens) :
      Documented tokens (.node h .absent .absent .absent [])
  | block {h : ExprHead} {list : List Expr} (kind : h.kind = .block) (unnamed : h.Unnamed)
      (entries : ∀ e ∈ list, Documented tokens e) :
      Documented tokens (.node h .absent .absent .absent list)
  | constant {h : ExprHead} {type value : Expr} (kind : h.kind = .constant)
      (named : h.NamedBy tokens) (ofType : type.isAbsent = false → Documented tokens type)
      (ofValue : Documented tokens value) : Documented tokens (.node h type value .absent [])
  | declaration {h : ExprHead} {type value : Expr} (kind : h.kind = .declaration)
      (named : h.NamedBy tokens) (either : type.isAbsent = false ∨ value.isAbsent = false)
      (ofType : type.isAbsent = false → Documented tokens type)
      (ofValue : value.isAbsent = false → Documented tokens value) :
      Documented tokens (.node h type value .absent [])
  | paren {h : ExprHead} {value : Expr} (kind : h.kind = .paren) (unnamed : h.Unnamed)
      (ofValue : Documented tokens value) (other : value.kind ≠ .declaration) :
      Documented tokens (.node h .absent value .absent [])
  | member {h : ExprHead} {operand : Expr} (kind : h.kind = .member) (named : h.NamedBy tokens)
      (ofOperand : Documented tokens operand) (free : ¬ operand.Binds) :
      Documented tokens (.node h .absent operand .absent [])
  | call {h : ExprHead} {operand : Expr} {list : List Expr} (kind : h.kind = .call)
      (unnamed : h.Unnamed) (ofOperand : Documented tokens operand) (free : ¬ operand.Binds)
      (arguments : ∀ e ∈ list, Documented tokens e) :
      Documented tokens (.node h .absent operand .absent list)
  | procedure {h : ExprHead} {type body : Expr} {list : List Expr} (kind : h.kind = .procedure)
      (unnamed : h.Unnamed) (parameters : ∀ e ∈ list, Documented tokens e)
      (declared : ∀ e ∈ list, e.kind = .declaration) (ofType : Documented tokens type)
      (ofBody : Documented tokens body) (block : body.kind = .block) :
      Documented tokens (.node h type .absent body list)
  | procedureType {h : ExprHead} {type : Expr} {list : List Expr} (kind : h.kind = .procedureType)
      (unnamed : h.Unnamed) (parameters : ∀ e ∈ list, Documented tokens e)
      (declared : ∀ e ∈ list, e.kind = .declaration) (ofType : Documented tokens type) :
      Documented tokens (.node h type .absent .absent list)
  | structType {h : ExprHead} {list : List Expr} (kind : h.kind = .structType)
      (unnamed : h.Unnamed) (some : list ≠ []) (fields : ∀ e ∈ list, Documented tokens e)
      (declared : ∀ e ∈ list, e.kind = .declaration) :
      Documented tokens (.node h .absent .absent .absent list)
  | arrayType {h : ExprHead} {type length : Expr} (kind : h.kind = .arrayType)
      (unnamed : h.Unnamed) (ofLength : Documented tokens length)
      (ofType : Documented tokens type) :
      Documented tokens (.node h type length .absent [])
  | wrapperType {h : ExprHead} {type : Expr}
      (kind : h.kind ∈ [.sliceType, .multipointerType, .pointerType]) (unnamed : h.Unnamed)
      (ofType : Documented tokens type) : Documented tokens (.node h type .absent .absent [])

def fields : Expr → List Expr
  | absent => []
  | node _ type value body list => type :: value :: body :: list

namespace Documented

variable {tokens : List Token} {e part : Expr}

theorem present (h : e.Documented tokens) : e.isAbsent = false := by
  cases h <;> rfl

theorem field (h : e.Documented tokens) (hpart : part ∈ e.fields) (hthere : part.isAbsent = false) :
    part.Documented tokens := by
  have habsent : part ≠ absent := by
    rintro rfl
    cases hthere
  cases h <;> simp only [fields, List.mem_cons, List.not_mem_nil, or_false, habsent, false_or]
    at hpart <;> grind

theorem literalOf (h : e.Documented tokens) (hkind : e.kind = .intLit) :
    e.head.LiteralOf tokens := by
  cases h with
  | intLit _ hliteral => exact hliteral
  | _ => simp_all [kind, head]

end Documented

mutual

/-- The numbers of the nodes, those of the parts of a node in source order and before its own. -/
def numbers : Expr → List Nat
  | absent => []
  | node h type value body list =>
    arranged h.kind (numbers type) (numbers value) (numbers body) (numbersAll list) ++ [h.index]

def numbersAll : List Expr → List Nat
  | [] => []
  | e :: rest => numbers e ++ numbersAll rest

end

theorem numbersAll_eq (list : List Expr) : numbersAll list = list.flatMap numbers := by
  induction list with
  | nil => rfl
  | cons e rest ih => rw [numbersAll, ih, List.flatMap_cons]

end Expr

structure Counted (lo hi : Nat) (numbers : List Nat) : Prop where
  le : lo ≤ hi
  eq : numbers = List.Ico (lo + 1) (hi + 1)

namespace Counted

variable {lo mid hi : Nat} {front back : List Nat}

private theorem nil (lo : Nat) : Counted lo lo [] := ⟨le_rfl, List.Ico.self_empty.symm⟩

private theorem append (h : Counted lo mid front) (h' : Counted mid hi back) :
    Counted lo hi (front ++ back) := by
  have hle := h.le
  have hle' := h'.le
  refine ⟨hle.trans hle', ?_⟩
  rw [h.eq, h'.eq]
  exact List.Ico.append_consecutive (by omega) (by omega)

private theorem snoc (h : Counted lo hi front) : Counted lo (hi + 1) (front ++ [hi + 1]) :=
  h.append ⟨by omega, List.Ico.succ_singleton.symm⟩

end Counted

/-! ### What a parse builds -/

namespace TokenStream

structure At (tokens : List Token) (made : Nat) (s : TokenStream) : Prop where
  rest : s.rest ⊆ tokens
  made : s.made = made

namespace At

variable {tokens : List Token} {n : Nat} {s : TokenStream} {kind : TokenKind}

private theorem look (h : s.At tokens n) : s.look.At tokens n := by
  refine ⟨by simpa using h.rest, ?_⟩
  rw [← h.made, TokenStream.look]
  split <;> rfl

private theorem building (h : s.At tokens n) : s.building.At tokens (n + 1) :=
  ⟨h.rest, congrArg (· + 1) h.made⟩

private theorem take {taken : Taken s} (h : s.At tokens n) (htaken : s.take? kind = some taken) :
    taken.token ∈ tokens ∧ taken.token.kind = kind ∧ taken.next.At tokens n := by
  obtain ⟨hrest, hkind⟩ := take?_eq_some htaken
  have hall := h.rest
  rw [hrest, List.cons_subset] at hall
  exact ⟨hall.1, hkind, hall.2, (congrArg TokenStream.made (take?_next htaken)).trans h.made⟩

private theorem expect {taken : Taken s.look} {e : Expected} (h : s.At tokens n)
    (htaken : (Syntax.expect s kind e).outcome = .ok taken) :
    taken.token ∈ tokens ∧ taken.token.kind = kind ∧ taken.next.At tokens n :=
  h.look.take ((Syntax.expect_moves .refl kind e).of_ok htaken)

private theorem skip (h : s.At tokens n) (p : TokenKind → Bool) : (s.skip p).1.At tokens n := by
  have hfrom (rest : List Token) (s : TokenStream) (hrest : rest ⊆ tokens) (hmade : s.made = n) :
      (skipFrom p rest s).At tokens n := by
    induction rest generalizing s with
    | nil => exact At.look ⟨hrest, hmade⟩
    | cons t rest ih =>
      have hseen : At tokens n { s with rest := t :: rest }.look := At.look ⟨hrest, hmade⟩
      simp only [skipFrom]
      split
      · exact ih _ (List.cons_subset.mp hrest).2 hseen.made
      · exact hseen
  exact hfrom s.rest s h.rest h.made

private theorem endItem {u : { next : TokenStream // next.size ≤ s.size }} (h : s.At tokens n)
    (hu : (Syntax.endItem s).outcome = .ok u) : u.1.At tokens n := by
  unfold Syntax.endItem at hu
  dsimp only at hu
  split at hu
  · next taken htaken =>
    obtain rfl := Except.ok.inj hu
    exact (h.look.take htaken).2.2
  · next taken _ htaken =>
    obtain rfl := Except.ok.inj hu
    exact (h.look.take htaken).2.2
  · split at hu
    case h_5 => cases hu
    all_goals
      obtain rfl := Except.ok.inj hu
      exact h.look

end At

end TokenStream

namespace Syntax

open TokenStream

variable {tokens : List Token} {lo n : Nat}

/-- What is built of a draft comes right after its parts. -/
theorem built_counted {s : TokenStream} (hs : s.At tokens n) {d : Draft}
    (hparts : Counted lo n (Expr.arranged d.kind d.type.numbers d.value.numbers d.body.numbers
      (Expr.numbersAll d.list))) :
    Counted lo s.building.made (s.built d).numbers := by
  obtain ⟨-, rfl⟩ := hs
  exact hparts.snoc

/-- The step built an expression after `lo` others, and all its nodes are numbered in order. -/
structure Step.Numbered {bound : Nat} (tokens : List Token) (lo : Nat) (r : Step bound Expr) :
    Prop where
  next : r.next.At tokens r.next.made
  counted : Counted lo r.next.made r.value.numbers
  documented : r.value.Documented tokens

structure Step.AllNumbered {bound : Nat} (tokens : List Token) (lo : Nat)
    (r : Step bound (List Expr)) : Prop where
  next : r.next.At tokens r.next.made
  counted : Counted lo r.next.made (Expr.numbersAll r.value)
  documented : ∀ e ∈ r.value, e.Documented tokens

private theorem Step.Numbered.within {bound larger : Nat} {r : Step bound Expr}
    (h : r.Numbered tokens lo)
    {hlt : r.next.size < larger} : (Step.mk r.value r.next hlt).Numbered tokens lo :=
  ⟨h.next, h.counted, h.documented⟩

private theorem finish_numbered {bound : Nat} {s : TokenStream} (hs : s.At tokens n) {d : Draft}
    {hlt : s.size < bound}
    (hparts : Counted lo n (Expr.arranged d.kind d.type.numbers d.value.numbers d.body.numbers
      (Expr.numbersAll d.list)))
    (hdocumented : (s.built d).Documented tokens) : (finish s d hlt).Numbered tokens lo :=
  ⟨⟨hs.rest, rfl⟩, built_counted hs hparts, hdocumented⟩

private theorem declared_of_ok {s : TokenStream} {list : List Expr} {done : Unit}
    (h : (requireDeclarations s list).outcome = .ok done) : ∀ e ∈ list, e.kind = .declaration := by
  intro e he
  rw [← e.bare_kind]
  exact requireDeclarations_eq_ok h _ (List.mem_map_of_mem he)

private theorem built_not_binds {s : TokenStream} {d : Draft}
    (h : d.kind ≠ .constant ∧ d.kind ≠ .declaration) : ¬ (s.built d).Binds := by
  rintro (hkind | hkind)
  · exact h.1 hkind
  · exact h.2 hkind

private theorem grouped_numbered {bound : Nat} {t : TokenStream} (ht : t.At tokens n) {span : Span}
    {entries : List Expr} {hlt : t.size < bound} {r : Step bound Expr}
    (h : (grouped t span entries hlt).outcome = .ok r)
    (hcounted : Counted lo n (Expr.numbersAll entries))
    (hdocumented : ∀ e ∈ entries, e.Documented tokens) :
    r.Numbered tokens lo ∧ ¬ r.value.Binds := by
  unfold grouped at h
  split at h
  · cases h
  · next first others =>
    split at h
    · next hsingle =>
      obtain ⟨hothers, hother⟩ := Bool.and_eq_true_iff.mp hsingle
      obtain rfl := List.isEmpty_iff.mp hothers
      obtain rfl := Except.ok.inj h
      refine ⟨finish_numbered ht ?_ ?_, built_not_binds (by simp)⟩
      · simpa [Expr.arranged, Expr.numbers, Expr.numbersAll] using hcounted
      · exact .paren rfl ⟨rfl, rfl⟩ (hdocumented first (by simp)) (by simpa using hother)
    · obtain ⟨_, hdeclared, h⟩ := Run.bind_eq_ok.mp h
      obtain rfl := Except.ok.inj h
      refine ⟨finish_numbered ht ?_ ?_, built_not_binds (by simp)⟩
      · simpa [Expr.arranged, Expr.numbers] using hcounted
      · exact .structType rfl ⟨rfl, rfl⟩ (by simp) hdocumented (declared_of_ok hdeclared)

private theorem name_built {s : TokenStream} (hs : s.At tokens n) {t : Token} (ht : t ∈ tokens)
    (hkind : t.kind = .ident) :
    let e := s.built { kind := .name, span := t.span, nameSpan := t.span, name := t.text }
    e.Documented tokens ∧ Counted n (n + 1) e.numbers :=
  ⟨.name rfl ⟨t, ht, hkind, rfl, rfl⟩ rfl, hs.building.made ▸ built_counted hs (.nil n)⟩

private theorem wrapper_numbered {bound : Nat} {elem : Step bound Expr}
    (helem : elem.Numbered tokens n)
    {kind : ExprKind} (hkind : kind ∈ [.sliceType, .multipointerType, .pointerType]) {span : Span}
    {larger : Nat} {hlt : elem.next.size < larger} :
    (finish elem.next { kind, span, type := elem.value } hlt).Numbered tokens n ∧
      ¬ (elem.next.built { kind, span, type := elem.value }).Binds := by
  refine ⟨finish_numbered helem.next ?_ (.wrapperType hkind ⟨rfl, rfl⟩ helem.documented),
    built_not_binds ?_⟩
  · have hcounted := helem.counted
    simp only [List.mem_cons, List.not_mem_nil, or_false] at hkind
    rcases hkind with rfl | rfl | rfl <;>
      simpa [Expr.arranged, Expr.numbers, Expr.numbersAll] using hcounted
  · simp only [List.mem_cons, List.not_mem_nil, or_false] at hkind
    rcases hkind with rfl | rfl | rfl <;> simp

-- The induction is the one of the parser, on the tokens that are left. It is carried by the count:
-- what a step builds is numbered on from the number of expressions that there were before.
mutual

private theorem expr_numbered {n : Nat} (s : TokenStream) (hs : s.At tokens n)
    {r : Step s.size Expr} (h : (expr s).outcome = .ok r) : r.Numbered tokens n := by
  rw [expr, Run.outcome_entering] at h
  split at h
  · next name hname =>
    obtain ⟨hmem, hkind, hnext⟩ := hs.look.take hname
    have hlt : name.next.size < s.size := by simpa using name.shorter
    dsimp only at h
    split at h
    · obtain ⟨r', hr', h⟩ := Run.bind_eq_ok.mp h
      obtain rfl := Except.ok.inj h
      exact (binding_numbered name.next.look hnext.look hmem hkind hr').within
    · obtain ⟨r', hr', h⟩ := Run.bind_eq_ok.mp h
      obtain rfl := Except.ok.inj h
      obtain ⟨hdocumented, hcounted⟩ := name_built hnext.look hmem hkind
      obtain ⟨hnumbered, -⟩ := postfixes_numbered name.next.look.building hnext.look.building
        hdocumented (built_not_binds (by simp)) hcounted hr'
      exact hnumbered.within
  · exact (operand_numbered s hs h).1
termination_by 8 * s.size + 3
decreasing_by all_goals (try simp only [look_size, building_size]); omega

private theorem operand_numbered {n : Nat} (s : TokenStream) (hs : s.At tokens n)
    {r : Step s.size Expr}
    (h : (operand s).outcome = .ok r) : r.Numbered tokens n ∧ ¬ r.value.Binds := by
  rw [operand, Run.outcome_entering] at h
  split at h
  · next opening hopening =>
    obtain ⟨-, -, hnext⟩ := hs.look.take hopening
    have hlt : opening.next.size < s.size := by simpa using opening.shorter
    obtain ⟨r', hr', h⟩ := Run.bind_eq_ok.mp h
    obtain rfl := Except.ok.inj h
    obtain ⟨hnumbered, hfree⟩ := bracketType_numbered opening.next hnext hr'
    exact ⟨hnumbered.within, hfree⟩
  · next caret _ hcaret =>
    obtain ⟨-, -, hnext⟩ := hs.look.take hcaret
    have hlt : caret.next.size < s.size := by simpa using caret.shorter
    obtain ⟨elem, helem, h⟩ := Run.bind_eq_ok.mp h
    obtain rfl := Except.ok.inj h
    exact wrapper_numbered (operand_numbered caret.next hnext helem).1 (by decide)
  · next name _ _ hname =>
    obtain ⟨hmem, hkind, hnext⟩ := hs.look.take hname
    have hlt : name.next.size < s.size := by simpa using name.shorter
    obtain ⟨r', hr', h⟩ := Run.bind_eq_ok.mp h
    obtain rfl := Except.ok.inj h
    obtain ⟨hdocumented, hcounted⟩ := name_built hnext hmem hkind
    obtain ⟨hnumbered, hfree⟩ := postfixes_numbered name.next.building hnext.building
      hdocumented (built_not_binds (by simp)) hcounted hr'
    exact ⟨hnumbered.within, hfree⟩
  · obtain ⟨first, hfirst, h⟩ := Run.bind_eq_ok.mp h
    have hlt := first.shorter
    obtain ⟨r', hr', h⟩ := Run.bind_eq_ok.mp h
    obtain rfl := Except.ok.inj h
    obtain ⟨hnumbered, hfree⟩ := primary_numbered s hs hfirst
    obtain ⟨hnumbered', hfree'⟩ :=
      postfixes_numbered first.next hnumbered.next hnumbered.documented hfree hnumbered.counted hr'
    exact ⟨hnumbered'.within, hfree'⟩
termination_by 8 * s.size + 2
decreasing_by all_goals (try simp only [building_size]); omega

private theorem ascription_numbered {n : Nat} (s : TokenStream) (hs : s.At tokens n)
    {r : Step (s.size + 1) Expr} (h : (ascription s).outcome = .ok r) :
    r.next.At tokens r.next.made ∧ Counted n r.next.made r.value.numbers ∧
      (r.value.isAbsent = false → r.value.Documented tokens) ∧
      (r.value.isAbsent = true → r.next.kind = .colon ∨ r.next.kind = .assign) := by
  rw [ascription, Run.outcome_entering] at h
  split at h
  · next hkind =>
    obtain rfl := Except.ok.inj h
    have hseen := hs.look
    refine ⟨⟨hseen.rest, rfl⟩, ?_, by simp [Expr.isAbsent], fun _ => by simpa using hkind⟩
    rw [hseen.made]
    exact .nil n
  · obtain ⟨r', hr', h⟩ := Run.bind_eq_ok.mp h
    obtain rfl := Except.ok.inj h
    obtain ⟨⟨hrest, hcounted, hdocumented⟩, -⟩ := operand_numbered s.look hs.look hr'
    refine ⟨hrest, hcounted, fun _ => hdocumented, fun habsent => ?_⟩
    rw [hdocumented.present] at habsent
    cases habsent
termination_by 8 * s.size + 3
decreasing_by all_goals (try simp only [look_size]); omega

private theorem binding_numbered {n : Nat} {name : Token} (s : TokenStream) (hs : s.At tokens n)
    (hmem : name ∈ tokens) (hkind : name.kind = .ident) {r : Step s.size Expr}
    (h : (binding name s).outcome = .ok r) : r.Numbered tokens n := by
  rw [binding, Run.outcome_entering] at h
  split at h
  · cases h
  · next colon hcolon =>
    obtain ⟨-, -, hnext⟩ := hs.take hcolon
    have hsize := colon.shorter
    obtain ⟨typed, htyped, h⟩ := Run.bind_eq_ok.mp h
    have hsize' := typed.shorter
    obtain ⟨hafter, hcounted, hdocumented, hleft⟩ := ascription_numbered colon.next hnext htyped
    dsimp only at h
    split at h
    · next second hsecond =>
      obtain ⟨-, -, hnext'⟩ := hafter.look.take hsecond
      have hsize'' : second.next.size < typed.next.size := by simpa using second.shorter
      obtain ⟨value, hvalue, h⟩ := Run.bind_eq_ok.mp h
      obtain rfl := Except.ok.inj h
      obtain ⟨hrest, hcounted', hdocumented'⟩ := expr_numbered second.next hnext' hvalue
      exact finish_numbered hrest (hcounted.append hcounted')
        (.constant rfl ⟨name, hmem, hkind, rfl, rfl⟩ hdocumented hdocumented')
    · next equals _ hequals =>
      obtain ⟨-, -, hnext'⟩ := hafter.look.take hequals
      have hsize'' : equals.next.size < typed.next.size := by simpa using equals.shorter
      obtain ⟨value, hvalue, h⟩ := Run.bind_eq_ok.mp h
      obtain rfl := Except.ok.inj h
      obtain ⟨hrest, hcounted', hdocumented'⟩ := expr_numbered equals.next hnext' hvalue
      exact finish_numbered hrest (hcounted.append hcounted')
        (.declaration rfl ⟨name, hmem, hkind, rfl, rfl⟩ (.inr hdocumented'.present) hdocumented
          fun _ => hdocumented')
    · next hcolon hassign =>
      obtain rfl := Except.ok.inj h
      have hpresent : typed.value.isAbsent = false := by
        by_contra habsent
        rw [← look_kind, kind_eq] at hleft
        rcases hleft (by simpa using habsent) with hkind | hkind
        · exact nextKind_ne_of_take? hcolon (by decide) hkind
        · exact nextKind_ne_of_take? hassign (by decide) hkind
      refine finish_numbered hafter.look ?_
        (.declaration rfl ⟨name, hmem, hkind, rfl, rfl⟩ (.inl hpresent) hdocumented
          (by simp [Expr.isAbsent]))
      simpa [Expr.arranged, Expr.numbers] using hcounted
termination_by 8 * s.size
decreasing_by all_goals omega

private theorem primary_numbered {n : Nat} (s : TokenStream) (hs : s.At tokens n)
    {r : Step s.size Expr}
    (h : (primary s).outcome = .ok r) : r.Numbered tokens n ∧ ¬ r.value.Binds := by
  rw [primary, Run.outcome_entering] at h
  split at h
  · next literal hliteral =>
    obtain ⟨hmem, hkind, hnext⟩ := hs.look.take hliteral
    obtain rfl := Except.ok.inj h
    exact ⟨finish_numbered hnext (.nil n) (.intLit rfl ⟨rfl, literal.token, hmem, hkind, rfl, rfl⟩),
      built_not_binds (by simp)⟩
  · next opening _ hopening =>
    obtain ⟨-, -, hnext⟩ := hs.look.take hopening
    have hlt : opening.next.size < s.size := by simpa using opening.shorter
    obtain ⟨r', hr', h⟩ := Run.bind_eq_ok.mp h
    obtain rfl := Except.ok.inj h
    obtain ⟨hnumbered, hfree⟩ := parenthesised_numbered opening.next hnext hr'
    exact ⟨hnumbered.within, hfree⟩
  · next opening _ _ hopening =>
    obtain ⟨-, -, hnext⟩ := hs.look.take hopening
    have hlt : opening.next.size < s.size := by simpa using opening.shorter
    obtain ⟨r', hr', h⟩ := Run.bind_eq_ok.mp h
    obtain rfl := Except.ok.inj h
    obtain ⟨hnumbered, hblock⟩ := block_numbered opening.next hnext hr'
    exact ⟨hnumbered.within, by simp [Expr.Binds, hblock]⟩
  · cases h
termination_by 8 * s.size + 1
decreasing_by all_goals omega

private theorem postfixes_numbered {lo n : Nat} {start : Span} {e : Expr} (s : TokenStream)
    (hs : s.At tokens n)
    (he : e.Documented tokens) (hfree : ¬ e.Binds) (hcounted : Counted lo n e.numbers)
    {r : Step (s.size + 1) Expr} (h : (postfixes start e s).outcome = .ok r) :
    r.Numbered tokens lo ∧ ¬ r.value.Binds := by
  rw [postfixes, Run.outcome_entering] at h
  split at h
  · next opening hopening =>
    obtain ⟨-, -, hnext⟩ := hs.look.take hopening
    have hlt : opening.next.size < s.size := by simpa using opening.shorter
    obtain ⟨args, hargs, h⟩ := Run.bind_eq_ok.mp h
    have hlt' := args.shorter
    obtain ⟨r', hr', h⟩ := Run.bind_eq_ok.mp h
    obtain rfl := Except.ok.inj h
    obtain ⟨hrest, hcounted', hlist⟩ := arguments_numbered opening.next hnext hargs
    have hparts : Counted lo args.next.made
        (Expr.arranged .call [] e.numbers [] (Expr.numbersAll args.value)) := by
      simpa [Expr.arranged] using hcounted.append hcounted'
    obtain ⟨hnumbered, hfree'⟩ := postfixes_numbered args.next.building hrest.building
      (.call rfl ⟨rfl, rfl⟩ he hfree hlist) (built_not_binds (by simp))
      (built_counted hrest hparts) hr'
    exact ⟨hnumbered.within, hfree'⟩
  · next dot _ hdot =>
    obtain ⟨-, -, hnext⟩ := hs.look.take hdot
    have hlt : dot.next.size < s.size := by simpa using dot.shorter
    obtain ⟨member, hmember, h⟩ := Run.bind_eq_ok.mp h
    have hlt' : member.next.size < dot.next.size := by simpa using member.shorter
    obtain ⟨r', hr', h⟩ := Run.bind_eq_ok.mp h
    obtain rfl := Except.ok.inj h
    obtain ⟨hmem, hkind, hrest⟩ := hnext.expect hmember
    have hparts : Counted lo n (Expr.arranged .member [] e.numbers [] []) := by
      simpa [Expr.arranged] using hcounted
    obtain ⟨hnumbered, hfree'⟩ := postfixes_numbered member.next.building hrest.building
      (.member rfl ⟨member.token, hmem, hkind, rfl, rfl⟩ he hfree) (built_not_binds (by simp))
      (hrest.building.made ▸ built_counted hrest hparts) hr'
    exact ⟨hnumbered.within, hfree'⟩
  · obtain rfl := Except.ok.inj h
    refine ⟨⟨⟨hs.look.rest, rfl⟩, ?_, he⟩, hfree⟩
    rw [hs.look.made]
    exact hcounted
termination_by 8 * s.size
decreasing_by all_goals (try simp only [building_size]); omega

private theorem arguments_numbered {n : Nat} (s : TokenStream) (hs : s.At tokens n)
    {r : Step s.size (List Expr)} (h : (arguments s).outcome = .ok r) : r.AllNumbered tokens n := by
  rw [arguments, Run.outcome_entering] at h
  have hle := (s.skip isNewline).2
  obtain ⟨entries, hentries, h⟩ := Run.bind_eq_ok.mp h
  obtain ⟨closing, hclosing, h⟩ := Run.bind_eq_ok.mp h
  obtain rfl := Except.ok.inj h
  obtain ⟨hrest, hcounted, hlist⟩ :=
    argumentEntries_numbered (s.skip isNewline).1 (hs.skip _) hentries
  obtain ⟨-, -, hnext⟩ := hrest.expect hclosing
  exact ⟨⟨hnext.rest, rfl⟩, by rw [hnext.made]; exact hcounted, hlist⟩
termination_by 8 * s.size + 5
decreasing_by all_goals omega

private theorem argumentEntries_numbered {n : Nat} (s : TokenStream) (hs : s.At tokens n)
    {r : Step (s.size + 1) (List Expr)} (h : (argumentEntries s).outcome = .ok r) :
    r.AllNumbered tokens n := by
  rw [argumentEntries, Run.outcome_entering] at h
  split at h
  · obtain rfl := Except.ok.inj h
    exact ⟨⟨hs.look.rest, rfl⟩, by rw [hs.look.made]; exact .nil n, by simp⟩
  · obtain ⟨first, hfirst, h⟩ := Run.bind_eq_ok.mp h
    have hlt : first.next.size < s.size := by simpa using first.shorter
    have hle := (first.next.skip isNewline).2
    obtain ⟨hrest, hcounted, hdocumented⟩ := expr_numbered s.look hs.look hfirst
    have hskip := hrest.skip isNewline
    dsimp only at h
    split at h
    · obtain rfl := Except.ok.inj h
      refine ⟨⟨hskip.rest, rfl⟩, ?_, by simpa using hdocumented⟩
      rw [hskip.made]
      simpa [Expr.numbersAll] using hcounted
    · next comma hcomma =>
      obtain ⟨-, -, hnext⟩ := hskip.take hcomma
      have hlt' := comma.shorter
      have hle' := (comma.next.skip isNewline).2
      obtain ⟨others, hothers, h⟩ := Run.bind_eq_ok.mp h
      obtain rfl := Except.ok.inj h
      obtain ⟨hrest', hcounted', hlist⟩ :=
        argumentEntries_numbered (comma.next.skip isNewline).1 (hnext.skip _) hothers
      exact ⟨hrest', hcounted.append hcounted', List.forall_mem_cons.mpr ⟨hdocumented, hlist⟩⟩
termination_by 8 * s.size + 4
decreasing_by all_goals (try simp only [look_size]); omega

private theorem parenthesised_numbered {n : Nat} {start : Span} (s : TokenStream)
    (hs : s.At tokens n) {r : Step s.size Expr} (h : (parenthesised start s).outcome = .ok r) :
    r.Numbered tokens n ∧ ¬ r.value.Binds := by
  rw [parenthesised, Run.outcome_entering] at h
  obtain ⟨args, hargs, h⟩ := Run.bind_eq_ok.mp h
  have hsize := args.shorter
  obtain ⟨hrest, hcounted, hlist⟩ := arguments_numbered s hs hargs
  dsimp only at h
  split at h
  · next arrow harrow =>
    obtain ⟨-, -, hnext⟩ := hrest.look.take harrow
    have hsize' : arrow.next.size < args.next.size := by simpa using arrow.shorter
    obtain ⟨_, hdeclared, h⟩ := Run.bind_eq_ok.mp h
    obtain ⟨ret, hret, h⟩ := Run.bind_eq_ok.mp h
    have hsize'' := ret.shorter
    obtain ⟨⟨hrest', hcounted', hdocumented⟩, -⟩ := operand_numbered arrow.next hnext hret
    have hfront := hcounted.append hcounted'
    split at h
    · obtain rfl := Except.ok.inj h
      refine ⟨finish_numbered hrest'.look ?_ (.procedureType rfl ⟨rfl, rfl⟩ hlist
        (declared_of_ok hdeclared) hdocumented), built_not_binds (by simp)⟩
      simpa [Expr.arranged, Expr.numbers] using hfront
    · next opening hopening =>
      obtain ⟨-, -, hnext'⟩ := hrest'.look.take hopening
      have hsize₃ : opening.next.size < ret.next.size := by simpa using opening.shorter
      obtain ⟨body, hbody, h⟩ := Run.bind_eq_ok.mp h
      obtain rfl := Except.ok.inj h
      obtain ⟨⟨hrest'', hcounted'', hdocumented'⟩, hblock⟩ :=
        block_numbered opening.next hnext' hbody
      exact ⟨finish_numbered hrest'' (hfront.append hcounted'') (.procedure rfl ⟨rfl, rfl⟩ hlist
        (declared_of_ok hdeclared) hdocumented hdocumented' hblock), built_not_binds (by simp)⟩
  · exact grouped_numbered hrest.look h hcounted hlist
termination_by 8 * s.size + 6
decreasing_by all_goals omega

private theorem block_numbered {n : Nat} {start : Span} (s : TokenStream) (hs : s.At tokens n)
    {r : Step s.size Expr} (h : (block start s).outcome = .ok r) :
    r.Numbered tokens n ∧ r.value.kind = .block := by
  rw [block, Run.outcome_entering] at h
  obtain ⟨entries, hentries, h⟩ := Run.bind_eq_ok.mp h
  obtain rfl := Except.ok.inj h
  obtain ⟨hrest, hcounted, hlist⟩ := blockEntries_numbered s hs hentries
  refine ⟨finish_numbered hrest ?_ (.block rfl ⟨rfl, rfl⟩ hlist), rfl⟩
  simpa [Expr.arranged, Expr.numbers] using hcounted
termination_by 8 * s.size + 5
decreasing_by all_goals omega

private theorem blockEntries_numbered {n : Nat} (s : TokenStream) (hs : s.At tokens n)
    {r : Step s.size (List Expr)} (h : (blockEntries s).outcome = .ok r) :
    r.AllNumbered tokens n := by
  rw [blockEntries, Run.outcome_entering] at h
  have hle := (s.skip TokenKind.isSeparator).2
  have hskip := hs.skip TokenKind.isSeparator
  dsimp only at h
  split at h
  · next closing hclosing =>
    obtain rfl := Except.ok.inj h
    obtain ⟨-, -, hnext⟩ := hskip.take hclosing
    exact ⟨⟨hnext.rest, rfl⟩, by rw [hnext.made]; exact .nil n, by simp⟩
  · obtain ⟨first, hfirst, h⟩ := Run.bind_eq_ok.mp h
    have hlt := first.shorter
    obtain ⟨u, hu, h⟩ := Run.bind_eq_ok.mp h
    have hle' := u.2
    obtain ⟨hrest, hcounted, hdocumented⟩ :=
      expr_numbered (s.skip TokenKind.isSeparator).1 hskip hfirst
    split at h
    case h_4 =>
      obtain ⟨others, hothers, h⟩ := Run.bind_eq_ok.mp h
      obtain rfl := Except.ok.inj h
      obtain ⟨hrest', hcounted', hlist⟩ :=
        blockEntries_numbered u.1.look (hrest.endItem hu).look hothers
      exact ⟨hrest', hcounted.append hcounted', List.forall_mem_cons.mpr ⟨hdocumented, hlist⟩⟩
    all_goals cases h
termination_by 8 * s.size + 4
decreasing_by all_goals (try simp only [look_size]); omega

private theorem bracketType_numbered {n : Nat} {start : Span} (s : TokenStream) (hs : s.At tokens n)
    {r : Step s.size Expr} (h : (bracketType start s).outcome = .ok r) :
    r.Numbered tokens n ∧ ¬ r.value.Binds := by
  rw [bracketType, Run.outcome_entering] at h
  dsimp only at h
  split at h
  · next closing hclosing =>
    obtain ⟨-, -, hnext⟩ := hs.look.take hclosing
    have hsize : closing.next.size < s.size := by simpa using closing.shorter
    obtain ⟨elem, helem, h⟩ := Run.bind_eq_ok.mp h
    obtain rfl := Except.ok.inj h
    exact wrapper_numbered (operand_numbered closing.next hnext helem).1 (by decide)
  · next caret _ hcaret =>
    obtain ⟨-, -, hnext⟩ := hs.look.take hcaret
    have hsize : caret.next.size < s.size := by simpa using caret.shorter
    obtain ⟨closing, hclosing, h⟩ := Run.bind_eq_ok.mp h
    have hsize' : closing.next.size < caret.next.size := by simpa using closing.shorter
    obtain ⟨-, -, hnext'⟩ := hnext.expect hclosing
    obtain ⟨elem, helem, h⟩ := Run.bind_eq_ok.mp h
    obtain rfl := Except.ok.inj h
    exact wrapper_numbered (operand_numbered closing.next hnext' helem).1 (by decide)
  · obtain ⟨length, hlength, h⟩ := Run.bind_eq_ok.mp h
    have hsize : length.next.size < s.size := by simpa using length.shorter
    obtain ⟨⟨hrest, hcounted, hdocumented⟩, -⟩ := operand_numbered s.look hs.look hlength
    obtain ⟨closing, hclosing, h⟩ := Run.bind_eq_ok.mp h
    have hsize' : closing.next.size < length.next.size := by simpa using closing.shorter
    obtain ⟨-, -, hnext⟩ := hrest.expect hclosing
    obtain ⟨elem, helem, h⟩ := Run.bind_eq_ok.mp h
    obtain rfl := Except.ok.inj h
    obtain ⟨⟨hrest', hcounted', hdocumented'⟩, -⟩ := operand_numbered closing.next hnext helem
    exact ⟨finish_numbered hrest' (hcounted.append hcounted')
      (.arrayType rfl ⟨rfl, rfl⟩ hdocumented hdocumented'), built_not_binds (by simp)⟩
termination_by 8 * s.size + 4
decreasing_by all_goals (try simp only [look_size]); omega

end

private theorem items_numbered {n : Nat} (s : TokenStream) (hs : s.At tokens n)
    (h : (items s).failed = false) :
    Counted n (items s).last.made ((items s).items.flatMap Expr.numbers) ∧
      ∀ e ∈ (items s).items, e.Documented tokens := by
  have hskip := hs.skip TokenKind.isSeparator
  have hle := (s.skip TokenKind.isSeparator).2
  revert h
  rw [items]
  dsimp only
  split
  · intro _
    rw [hskip.made]
    exact ⟨.nil n, by simp⟩
  · split
    · simp
    · next first hfirst =>
      have hlt := first.shorter
      obtain ⟨hnext, hcounted, hdocumented⟩ :=
        expr_numbered (s.skip TokenKind.isSeparator).1 hskip hfirst
      split
      · simp
      · next u hu hend =>
        intro hfailed
        obtain ⟨hcounted', hlist⟩ := items_numbered u (hnext.endItem hend) hfailed
        exact ⟨hcounted.append hcounted', List.forall_mem_cons.mpr ⟨hdocumented, hlist⟩⟩
termination_by s.size
decreasing_by omega

end Syntax

/-- The items of a file that is parsed without an error: every node is numbered, in order, and has
the parts of its kind. -/
theorem SourceFile.parse_counted (f : SourceFile) (h : f.parse.failed = false) :
    Counted 0 f.parse.made (f.parse.file.items.flatMap Expr.numbers) ∧
      ∀ e ∈ f.parse.file.items, e.Documented f.tokens := by
  let start : TokenStream := { rest := f.tokens, lastSpan := { file := f.id } }
  have hstart : start.At f.tokens 0 := ⟨List.Subset.refl _, rfl⟩
  exact Syntax.items_numbered start.look hstart.look h

end Keywordless
