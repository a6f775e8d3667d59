import Keywordless.Proofs.Grammar

/-!
# Greedy derivations

What the grammar derives has a greedy derivation: operators and blocks that follow a return type can
be handed to the innermost operand that takes them. The trees differ, but a declaration stays one,
so that lists of parameters stay what they are.
-/

namespace Keywordless.Grammar

private theorem Operators.append {greedy : Prop} {s t s' : List Token} {ops more : List Operator}
    (hmore : Operators greedy t more s') :
    Operators greedy s ops t → Operators greedy s (ops ++ more) s'
  | .nil => hmore
  | .call hargs hrest => .call hargs (append hmore hrest)
  | .member hdot hname hrest => .member hdot hname (append hmore hrest)

mutual

/-- Operators after an operand belong to its innermost operand. -/
theorem Operand.attach {s t s' : List Token} {e : Expr} {dangling : Bool} {ops : List Operator}
    (hops : Operators True t ops s') :
    Operand True s e dangling t → ∃ e' dangling', Operand True s e' dangling' s'
  | .slice hopening hclosing helem => by
    obtain ⟨_, _, h⟩ := Operand.attach hops helem
    exact ⟨_, _, .slice hopening hclosing h⟩
  | .multipointer hopening hmark hclosing helem => by
    obtain ⟨_, _, h⟩ := Operand.attach hops helem
    exact ⟨_, _, .multipointer hopening hmark hclosing h⟩
  | .array hopening hunmarked hlength hclosing helem => by
    obtain ⟨_, _, h⟩ := Operand.attach hops helem
    exact ⟨_, _, .array hopening hunmarked hlength hclosing h⟩
  | .pointer hmark helem => by
    obtain ⟨_, _, h⟩ := Operand.attach hops helem
    exact ⟨_, _, .pointer hmark h⟩
  | @Operand.applied _ _ _ _ _ inner _ hprimary hown hinnermost => by
    -- Behind a procedure type the operators go on into its return type.
    by_cases hinner : inner = true
    · have hnone := hown.eq_of_nil (hinnermost trivial hinner)
      obtain ⟨_, _, h⟩ := Primary.attach (hnone ▸ hops) hprimary hinner
      exact ⟨_, _, .applied h .nil fun _ _ => rfl⟩
    · exact ⟨_, _, .applied hprimary (.append hops hown) fun _ h => absurd h hinner⟩

private theorem Primary.attach {s t s' : List Token} {e : Expr} {dangling : Bool}
    {ops : List Operator} (hops : Operators True t ops s') :
    Primary True s e dangling t → dangling = true → ∃ e' dangling', Primary True s e' dangling' s'
  | .name _, h | .intLit _, h | .block _, h | .paren _ _, h | .structType _ _ _, h
  | .procedure _ _ _ _ _ _, h => nomatch h
  | .procedureType hargs hdeclared harrow htype, _ => by
    obtain ⟨_, _, h⟩ := Operand.attach hops htype
    exact ⟨_, _, .procedureType hargs hdeclared harrow h⟩

end

mutual

/-- A block after an operand that dangles belongs to its innermost procedure. -/
theorem Operand.attachBlock {s t s' : List Token} {e body : Expr} {dangling : Bool}
    (hbody : Block True t body s') :
    Operand True s e dangling t → dangling = true → ∃ e' dangling', Operand True s e' dangling' s'
  | .slice hopening hclosing helem, hdangling => by
    obtain ⟨_, _, h⟩ := Operand.attachBlock hbody helem hdangling
    exact ⟨_, _, .slice hopening hclosing h⟩
  | .multipointer hopening hmark hclosing helem, hdangling => by
    obtain ⟨_, _, h⟩ := Operand.attachBlock hbody helem hdangling
    exact ⟨_, _, .multipointer hopening hmark hclosing h⟩
  | .array hopening hunmarked hlength hclosing helem, hdangling => by
    obtain ⟨_, _, h⟩ := Operand.attachBlock hbody helem hdangling
    exact ⟨_, _, .array hopening hunmarked hlength hclosing h⟩
  | .pointer hmark helem, hdangling => by
    obtain ⟨_, _, h⟩ := Operand.attachBlock hbody helem hdangling
    exact ⟨_, _, .pointer hmark h⟩
  | .applied hprimary hown hinnermost, hdangling => by
    have hinner := (Bool.and_eq_true_iff.mp hdangling).1
    have hnone := hown.eq_of_nil (hinnermost trivial hinner)
    obtain ⟨_, _, h⟩ := Primary.attachBlock (hnone ▸ hbody) hprimary hinner
    exact ⟨_, _, .applied h .nil fun _ _ => rfl⟩

private theorem Primary.attachBlock {s t s' : List Token} {e body : Expr} {dangling : Bool}
    (hbody : Block True t body s') :
    Primary True s e dangling t → dangling = true → ∃ e' dangling', Primary True s e' dangling' s'
  | .name _, h | .intLit _, h | .block _, h | .paren _ _, h | .structType _ _ _, h
  | .procedure _ _ _ _ _ _, h => nomatch h
  | @Primary.procedureType _ _ _ _ _ _ _ inner hargs hdeclared harrow htype, _ => by
    by_cases hinner : inner = true
    · obtain ⟨_, _, h⟩ := Operand.attachBlock hbody htype hinner
      exact ⟨_, _, .procedureType hargs hdeclared harrow h⟩
    · exact ⟨_, _, .procedure hargs hdeclared harrow htype hbody fun _ => by simpa using hinner⟩

end

def SameDeclarations (list list' : List Expr) : Prop :=
  List.Forall₂ (fun e e' => e.kind = .declaration ↔ e'.kind = .declaration) list list'

private theorem SameDeclarations.all {list list' : List Expr} (h : SameDeclarations list list')
    (hall : ∀ e ∈ list, e.kind = .declaration) : ∀ e ∈ list', e.kind = .declaration := by
  induction h with
  | nil => simp
  | cons hfirst _ ih =>
    rw [List.forall_mem_cons] at hall ⊢
    exact ⟨hfirst.mp hall.1, ih hall.2⟩

private theorem SameDeclarations.ne_nil {list list' : List Expr} (h : SameDeclarations list list')
    (hne : list ≠ []) : list' ≠ [] := by
  cases h with
  | nil => exact hne
  | cons _ _ => exact List.cons_ne_nil _ _

private theorem Operator.apply_kind (e : Expr) (op : Operator) :
    (op.apply e).kind ≠ .declaration := by
  cases op <;> exact nofun

private theorem kind_foldl_apply {e : Expr} {ops : List Operator} (h : e.kind ≠ .declaration) :
    (ops.foldl Operator.apply e).kind ≠ .declaration := by
  induction ops generalizing e with
  | nil => exact h
  | cons op rest ih => exact ih (op.apply_kind e)

private theorem Primary.kind_ne {greedy : Prop} {s s' : List Token} {e : Expr} {dangling : Bool}
    (h : Primary greedy s e dangling s') : e.kind ≠ .declaration := by
  cases h with
  | block hblock =>
    cases hblock
    exact nofun
  | _ => exact nofun

private theorem Operand.kind_ne {greedy : Prop} {s s' : List Token} {e : Expr} {dangling : Bool}
    (h : Operand greedy s e dangling s') : e.kind ≠ .declaration := by
  cases h with
  | applied hprimary _ _ => exact kind_foldl_apply hprimary.kind_ne
  | _ => exact nofun

mutual

private theorem Expression.greedily {greedy : Prop} {s s' : List Token} {e : Expr} :
    Expression greedy s e s' →
      ∃ e', Expression True s e' s' ∧ (e.kind = .declaration ↔ e'.kind = .declaration)
  | .operand hoperand => by
    obtain ⟨_, _, h⟩ := Operand.greedily hoperand
    exact ⟨_, .operand h, iff_of_false hoperand.kind_ne h.kind_ne⟩
  | .constant hname hfirst htype hsecond hvalue => by
    obtain ⟨_, ht⟩ := Ascription.greedily htype
    obtain ⟨_, hv, -⟩ := Expression.greedily hvalue
    exact ⟨_, .constant hname hfirst ht hsecond hv, Iff.rfl⟩
  | .declaration hname hfirst htype hequals hvalue => by
    obtain ⟨_, ht⟩ := Ascription.greedily htype
    obtain ⟨_, hv, -⟩ := Expression.greedily hvalue
    exact ⟨_, .declaration hname hfirst ht hequals hv, Iff.rfl⟩
  | .typed hname hfirst htype => by
    obtain ⟨_, _, ht⟩ := Operand.greedily htype
    exact ⟨_, .typed hname hfirst ht, Iff.rfl⟩

private theorem Ascription.greedily {greedy : Prop} {s s' : List Token} {e : Expr} :
    Ascription greedy s e s' → ∃ e', Ascription True s e' s'
  | .none => ⟨_, .none⟩
  | .some hoperand => by
    obtain ⟨_, _, h⟩ := Operand.greedily hoperand
    exact ⟨_, .some h⟩

private theorem Operand.greedily {greedy : Prop} {s s' : List Token} {e : Expr} {dangling : Bool} :
    Operand greedy s e dangling s' → ∃ e' dangling', Operand True s e' dangling' s'
  | .slice hopening hclosing helem => by
    obtain ⟨_, _, h⟩ := Operand.greedily helem
    exact ⟨_, _, .slice hopening hclosing h⟩
  | .multipointer hopening hmark hclosing helem => by
    obtain ⟨_, _, h⟩ := Operand.greedily helem
    exact ⟨_, _, .multipointer hopening hmark hclosing h⟩
  | .array hopening hunmarked hlength hclosing helem => by
    obtain ⟨_, _, hl⟩ := Operand.greedily hlength
    obtain ⟨_, _, he⟩ := Operand.greedily helem
    exact ⟨_, _, .array hopening hunmarked hl hclosing he⟩
  | .pointer hmark helem => by
    obtain ⟨_, _, h⟩ := Operand.greedily helem
    exact ⟨_, _, .pointer hmark h⟩
  | .applied hprimary hops _ => by
    obtain ⟨_, _, hp⟩ := Primary.greedily hprimary
    obtain ⟨_, ho⟩ := Operators.greedily hops
    -- The primary operand may dangle only now, so its operators are attached anew.
    exact Operand.attach ho (.applied hp .nil fun _ _ => rfl)

private theorem Primary.greedily {greedy : Prop} {s s' : List Token} {e : Expr} {dangling : Bool} :
    Primary greedy s e dangling s' → ∃ e' dangling', Primary True s e' dangling' s'
  | .name hname => ⟨_, _, .name hname⟩
  | .intLit hliteral => ⟨_, _, .intLit hliteral⟩
  | .block hblock => by
    obtain ⟨_, h⟩ := Block.greedily hblock
    exact ⟨_, _, .block h⟩
  | .paren hargs hother => by
    obtain ⟨list, h, hsame⟩ := Arguments.greedily hargs
    obtain ⟨e', hfirst, rfl⟩ : ∃ e', ¬ e'.kind = .declaration ∧ list = [e'] := by
      cases hsame with
      | cons hfirst hrest =>
        cases hrest
        exact ⟨_, fun hd => hother (hfirst.mpr hd), rfl⟩
    exact ⟨_, _, .paren h hfirst⟩
  | .structType hargs hsome hdeclared => by
    obtain ⟨_, h, hsame⟩ := Arguments.greedily hargs
    exact ⟨_, _, .structType h (hsame.ne_nil hsome) (hsame.all hdeclared)⟩
  | .procedureType hargs hdeclared harrow htype => by
    obtain ⟨_, ha, hsame⟩ := Arguments.greedily hargs
    obtain ⟨_, _, ht⟩ := Operand.greedily htype
    exact ⟨_, _, .procedureType ha (hsame.all hdeclared) harrow ht⟩
  | .procedure hargs hdeclared harrow htype hbody _ => by
    obtain ⟨_, ha, hsame⟩ := Arguments.greedily hargs
    obtain ⟨_, inner, ht⟩ := Operand.greedily htype
    obtain ⟨_, hb⟩ := Block.greedily hbody
    exact Primary.attachBlock hb (.procedureType ha (hsame.all hdeclared) harrow ht) rfl

private theorem Operators.greedily {greedy : Prop} {s s' : List Token} {ops : List Operator} :
    Operators greedy s ops s' → ∃ ops', Operators True s ops' s'
  | .nil => ⟨_, .nil⟩
  | .call hargs hrest => by
    obtain ⟨_, ha, -⟩ := Arguments.greedily hargs
    obtain ⟨_, hr⟩ := Operators.greedily hrest
    exact ⟨_, .call ha hr⟩
  | .member hdot hname hrest => by
    obtain ⟨_, hr⟩ := Operators.greedily hrest
    exact ⟨_, .member hdot hname hr⟩

private theorem Block.greedily {greedy : Prop} {s s' : List Token} {e : Expr} :
    Block greedy s e s' → ∃ e', Block True s e' s'
  | .mk hopening hlist hclosing => by
    obtain ⟨_, h⟩ := Sequence.greedily hlist
    exact ⟨_, .mk hopening h hclosing⟩

private theorem Arguments.greedily {greedy : Prop} {s s' : List Token} {list : List Expr} :
    Arguments greedy s list s' → ∃ list', Arguments True s list' s' ∧ SameDeclarations list list'
  | .mk hopening hnewlines hlist hclosing => by
    obtain ⟨_, h, hsame⟩ := Entries.greedily hlist
    exact ⟨_, .mk hopening hnewlines h hclosing, hsame⟩

private theorem Entries.greedily {greedy : Prop} {s s' : List Token} {list : List Expr} :
    Entries greedy s list s' → ∃ list', Entries True s list' s' ∧ SameDeclarations list list'
  | .none => ⟨_, .none, .nil⟩
  | .last hfirst hnewlines => by
    obtain ⟨_, hf, hsame⟩ := Expression.greedily hfirst
    exact ⟨_, .last hf hnewlines, .cons hsame .nil⟩
  | .more hfirst hbefore hcomma hafter hrest => by
    obtain ⟨_, hf, hsame⟩ := Expression.greedily hfirst
    obtain ⟨_, hr, hsame'⟩ := Entries.greedily hrest
    exact ⟨_, .more hf hbefore hcomma hafter hr, .cons hsame hsame'⟩

private theorem Sequence.greedily {greedy : Prop} {s s' : List Token} {list : List Expr} :
    Sequence greedy s list s' → ∃ list', Sequence True s list' s'
  | .empty hseps => ⟨_, .empty hseps⟩
  | .cons hseps hfirst hrest => by
    obtain ⟨_, hf, -⟩ := Expression.greedily hfirst
    obtain ⟨_, hr⟩ := Rest.greedily hrest
    exact ⟨_, .cons hseps hf hr⟩

private theorem Rest.greedily {greedy : Prop} {s s' : List Token} {list : List Expr} :
    Rest greedy s list s' → ∃ list', Rest True s list' s'
  | .nil => ⟨_, .nil⟩
  | .separated hsep hlist => by
    obtain ⟨_, h⟩ := Sequence.greedily hlist
    exact ⟨_, .separated hsep h⟩

end

theorem File.greedily {greedy : Prop} {tokens : List Token} {items : List Expr}
    (h : File greedy tokens items) : ∃ items', File True tokens items' := by
  obtain ⟨last, hlast, hitems⟩ := h
  obtain ⟨items', h⟩ := hitems.greedily
  exact ⟨items', last, hlast, h⟩

end Keywordless.Grammar
