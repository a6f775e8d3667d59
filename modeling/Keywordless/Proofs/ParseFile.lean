import Keywordless.Proofs.Greedy
import Keywordless.Proofs.ParserComplete

/-!
# Parsing a file

The parser accepts a file exactly if the grammar derives its tokens, and then it returns the tree of
the greedy derivation, which is the only one of its kind.
-/

namespace Keywordless

namespace Grammar

private theorem Skips.trans {p : TokenKind → Bool} {s t u : List Token} (hst : Skips p s t)
    (htu : Skips p t u) : Skips p s u := by
  induction hst with
  | done => exact htu
  | skip hkind _ ih => exact .skip hkind (ih htu)

private theorem Skips.imp {p q : TokenKind → Bool} {s t : List Token} (h : Skips p s t)
    (himp : ∀ k, p k → q k) : Skips q s t := by
  induction h with
  | done => exact .done
  | skip hkind _ ih => exact .skip (himp _ hkind) ih

def goesOn (k : TokenKind) : Bool := k != .endOfFile

private theorem goesOn_of_eq {t : Token} {k : TokenKind} (h : t.kind = k)
    (hk : k ≠ .endOfFile) : goesOn t.kind := by
  simpa [goesOn, h] using hk

private theorem goesOn_of_newline (k : TokenKind) (h : Syntax.isNewline k) : goesOn k := by
  cases k <;> first
    | rfl
    | cases h

private theorem goesOn_of_separator (k : TokenKind) (h : k.isSeparator) : goesOn k := by
  cases k <;> first
    | rfl
    | cases h

mutual

private theorem Expression.within {greedy : Prop} {s s' : List Token} {e : Expr} :
    Expression greedy s e s' → Skips goesOn s s'
  | .operand hoperand => Operand.within hoperand
  | .constant hname hfirst htype hsecond hvalue =>
    .skip (goesOn_of_eq hname (by decide)) <| .skip (goesOn_of_eq hfirst (by decide)) <|
      (Ascription.within htype).trans <| .skip (goesOn_of_eq hsecond (by decide)) <|
      Expression.within hvalue
  | .declaration hname hfirst htype hequals hvalue =>
    .skip (goesOn_of_eq hname (by decide)) <| .skip (goesOn_of_eq hfirst (by decide)) <|
      (Ascription.within htype).trans <| .skip (goesOn_of_eq hequals (by decide)) <|
      Expression.within hvalue
  | .typed hname hfirst htype =>
    .skip (goesOn_of_eq hname (by decide)) <| .skip (goesOn_of_eq hfirst (by decide)) <|
      Operand.within htype

private theorem Ascription.within {greedy : Prop} {s s' : List Token} {e : Expr} :
    Ascription greedy s e s' → Skips goesOn s s'
  | .none => .done
  | .some hoperand => Operand.within hoperand

private theorem Operand.within {greedy : Prop} {s s' : List Token} {e : Expr} {dangling : Bool} :
    Operand greedy s e dangling s' → Skips goesOn s s'
  | .slice hopening hclosing helem =>
    .skip (goesOn_of_eq hopening (by decide)) <| .skip (goesOn_of_eq hclosing (by decide)) <|
      Operand.within helem
  | .multipointer hopening hmark hclosing helem =>
    .skip (goesOn_of_eq hopening (by decide)) <| .skip (goesOn_of_eq hmark (by decide)) <|
      .skip (goesOn_of_eq hclosing (by decide)) <| Operand.within helem
  | .array hopening _ hlength hclosing helem =>
    .skip (goesOn_of_eq hopening (by decide)) <| (Operand.within hlength).trans <|
      .skip (goesOn_of_eq hclosing (by decide)) <| Operand.within helem
  | .pointer hmark helem => .skip (goesOn_of_eq hmark (by decide)) <| Operand.within helem
  | .applied hprimary hops _ => (Primary.within hprimary).trans (Operators.within hops)

private theorem Primary.within {greedy : Prop} {s s' : List Token} {e : Expr} {dangling : Bool} :
    Primary greedy s e dangling s' → Skips goesOn s s'
  | .name hname => .skip (goesOn_of_eq hname (by decide)) .done
  | .intLit hliteral => .skip (goesOn_of_eq hliteral (by decide)) .done
  | .block hblock => Block.within hblock
  | .paren hargs _ => Arguments.within hargs
  | .structType hargs _ _ => Arguments.within hargs
  | .procedureType hargs _ harrow htype =>
    (Arguments.within hargs).trans <| .skip (goesOn_of_eq harrow (by decide)) <|
      Operand.within htype
  | .procedure hargs _ harrow htype hbody _ =>
    (Arguments.within hargs).trans <| .skip (goesOn_of_eq harrow (by decide)) <|
      (Operand.within htype).trans (Block.within hbody)

private theorem Operators.within {greedy : Prop} {s s' : List Token} {ops : List Operator} :
    Operators greedy s ops s' → Skips goesOn s s'
  | .nil => .done
  | .call hargs hrest => (Arguments.within hargs).trans (Operators.within hrest)
  | .member hdot hname hrest =>
    .skip (goesOn_of_eq hdot (by decide)) <| .skip (goesOn_of_eq hname (by decide)) <|
      Operators.within hrest

private theorem Block.within {greedy : Prop} {s s' : List Token} {e : Expr} :
    Block greedy s e s' → Skips goesOn s s'
  | .mk hopening hlist hclosing =>
    .skip (goesOn_of_eq hopening (by decide)) <| (Sequence.within hlist).trans <|
      .skip (goesOn_of_eq hclosing (by decide)) .done

private theorem Arguments.within {greedy : Prop} {s s' : List Token} {list : List Expr} :
    Arguments greedy s list s' → Skips goesOn s s'
  | .mk hopening hnewlines hlist hclosing =>
    .skip (goesOn_of_eq hopening (by decide)) <| (hnewlines.imp goesOn_of_newline).trans <|
      (Entries.within hlist).trans <| .skip (goesOn_of_eq hclosing (by decide)) .done

private theorem Entries.within {greedy : Prop} {s s' : List Token} {list : List Expr} :
    Entries greedy s list s' → Skips goesOn s s'
  | .none => .done
  | .last hfirst hnewlines =>
    (Expression.within hfirst).trans (hnewlines.imp goesOn_of_newline)
  | .more hfirst hbefore hcomma hafter hrest =>
    (Expression.within hfirst).trans <| (hbefore.imp goesOn_of_newline).trans <|
      .skip (goesOn_of_eq hcomma (by decide)) <| (hafter.imp goesOn_of_newline).trans <|
      Entries.within hrest

private theorem Sequence.within {greedy : Prop} {s s' : List Token} {list : List Expr} :
    Sequence greedy s list s' → Skips goesOn s s'
  | .empty hseps => hseps.imp goesOn_of_separator
  | .cons hseps hfirst hrest =>
    (hseps.imp goesOn_of_separator).trans <| (Expression.within hfirst).trans <|
      Rest.within hrest

private theorem Rest.within {greedy : Prop} {s s' : List Token} {list : List Expr} :
    Rest greedy s list s' → Skips goesOn s s'
  | .nil => .done
  | .separated hsep hlist => .skip (goesOn_of_separator _ hsep) (Sequence.within hlist)

end

end Grammar

open Grammar (nextKind Skips goesOn Sequence Rest)

private theorem tokensFrom_end (file : FileId) (offset : Nat) (text : Bytes) :
    ∃ last, last.kind = .endOfFile ∧ Skips goesOn (tokensFrom file offset text) [last] := by
  fun_induction tokensFrom file offset text with
  | case1 offset text scanned hend => exact ⟨_, hend, .done⟩
  | case2 offset text scanned hmore ih =>
    obtain ⟨last, hlast, hrest⟩ := ih
    exact ⟨last, hlast, .skip (by simpa [goesOn] using hmore) hrest⟩

namespace Syntax

open TokenStream

def Accepts (s : TokenStream) (list : List Expr) : Prop :=
  (items s).failed = false ∧ (items s).items.map Expr.bare = list

private theorem items_empty {s : TokenStream} {w' : List Token}
    (hseps : Skips TokenKind.isSeparator s.rest w') (hkind : nextKind w' = .endOfFile) :
    Accepts s [] := by
  have hskip : (s.skip TokenKind.isSeparator).1.rest = w' :=
    skip_rest hseps rfl (by rw [hkind]; rfl)
  have hend : ((s.skip TokenKind.isSeparator).1.kind == .endOfFile) = true := by
    simp [kind_eq, hskip, hkind]
  unfold Accepts
  rw [items]
  simp [hend]

private theorem items_cons {s : TokenStream} {w u : List Token} {e : Expr} {es : List Expr}
    (hseps : Skips TokenKind.isSeparator s.rest w)
    (hstart : Grammar.startsOperand (nextKind w)) (hfirst : ∀ t, t.rest = w → Reads (expr t) e u)
    (hothers : ∀ t, t.rest = u → ∃ v, (endItem t).outcome = .ok v ∧ Accepts v.1 es) :
    Accepts s (e :: es) := by
  have hskip : (s.skip TokenKind.isSeparator).1.rest = w :=
    skip_rest hseps rfl (Grammar.isSeparator_of_starts hstart)
  have hgoesOn : ((s.skip TokenKind.isSeparator).1.kind == .endOfFile) = false := by
    have hne : nextKind w ≠ .endOfFile := Grammar.ne_of_starts hstart rfl
    simp [kind_eq, hskip, hne]
  obtain ⟨first, hr, rfl, hnext⟩ := hfirst _ hskip
  obtain ⟨v, hend, hfailed, hitems⟩ := hothers _ hnext
  unfold Accepts
  rw [items]
  simp only [hgoesOn, hr, hend]
  exact ⟨hfailed, congrArg _ hitems⟩

mutual

private theorem items_complete {w w' : List Token} {list : List Expr} : Sequence True w list w' →
    nextKind w' = .endOfFile → ∀ s : TokenStream, s.rest = w → Accepts s list
  | .empty hseps, hend, _, hrest => items_empty (hrest ▸ hseps) hend
  | .cons hseps hfirst hothers, hend, _, hrest =>
    items_cons (hrest ▸ hseps) hfirst.starts
      (expr_complete hfirst (ends_of_rest hothers (hend ▸ rfl)))
      (rest_accepted hothers hend)

private theorem rest_accepted {w w' : List Token} {list : List Expr} : Rest True w list w' →
    nextKind w' = .endOfFile → ∀ s : TokenStream, s.rest = w →
      ∃ v, (endItem s).outcome = .ok v ∧ Accepts v.1 list
  | .nil, hend, s, hrest => by
    subst hrest
    obtain ⟨v, hv, hnext⟩ := endItem_of_closes (s := s) (by rw [hend]; rfl)
    exact ⟨v, hv, items_empty (hnext ▸ .done) hend⟩
  | .separated hsep hlist, hend, _, hrest => by
    obtain ⟨v, hv, hnext⟩ := endItem_of_separator hrest hsep
    exact ⟨v, hv, items_complete hlist hend v.1 hnext⟩

end

end Syntax

namespace SourceFile

private theorem tokens_end (f : SourceFile) :
    ∃ last, last.kind = .endOfFile ∧ Skips goesOn f.tokens [last] :=
  tokensFrom_end f.id 0 f.content

/-- A file that is parsed without an error is derived, to what was parsed. -/
theorem parse_sound (f : SourceFile) (greedy : Prop) (h : f.parse.failed = false) :
    Grammar.File greedy f.tokens (f.parse.file.items.map Expr.bare) := by
  obtain ⟨last, hlast, hskips⟩ := f.tokens_end
  obtain ⟨w, hw, hlist⟩ := Syntax.items_sound greedy _ h
  rw [TokenStream.look_rest] at hlist
  -- A derivation reads no end of a file, so it stops at the only one.
  have hrest : w = [last] :=
    hlist.within.unique (by simp [goesOn, hw]) hskips (by simp [goesOn, nextKind, hlast])
  exact ⟨last, hlast, hrest ▸ hlist⟩

/-- What a greedy derivation reads is parsed without an error, to the same tree. -/
theorem parse_complete (f : SourceFile) {items : List Expr}
    (h : Grammar.File True f.tokens items) :
    f.parse.failed = false ∧ f.parse.file.items.map Expr.bare = items := by
  obtain ⟨last, hlast, hlist⟩ := h
  exact Syntax.items_complete hlist hlast _ (TokenStream.look_rest _)

/-- The parser accepts a file if and only if its tokens are derived from the grammar. Then what it
returns is the tree of the greedy derivation, and of no other one. -/
theorem parse_accepts_grammar (f : SourceFile) :
    (f.parse.failed = false ↔ ∃ items, Grammar.File False f.tokens items) ∧
    (f.parse.failed = false →
      Grammar.File False f.tokens (f.parse.file.items.map Expr.bare) ∧
      ∀ items, Grammar.File True f.tokens items ↔ items = f.parse.file.items.map Expr.bare) := by
  refine ⟨⟨fun h => ⟨_, f.parse_sound False h⟩, ?_⟩, fun h => ⟨f.parse_sound False h, ?_⟩⟩
  · rintro ⟨items, hitems⟩
    obtain ⟨items', hgreedy⟩ := hitems.greedily
    exact (f.parse_complete hgreedy).1
  · intro items
    constructor
    · intro hitems
      exact (f.parse_complete hitems).2.symm
    · rintro rfl
      exact f.parse_sound True h

end SourceFile

end Keywordless
