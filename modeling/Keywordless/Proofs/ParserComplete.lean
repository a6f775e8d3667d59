import Keywordless.Proofs.ParserSound

/-!
# What is derived greedily is read

A greedy derivation tells the parser what to do: at each step one token of look-ahead is enough to
follow it, and the step reads the tree of the derivation. There is one statement for each way
through a step of the descent, which takes what the steps below read from the derivation; the
recursion over derivations puts them together.
-/

namespace Keywordless.Syntax

open TokenStream
open Grammar (nextKind Skips Tree Expression Ascription Operand Primary Operators Operator
  Arguments Entries Sequence Rest)

section Steps

variable {s : TokenStream} {w u w' : List Token} {e : Expr}

private theorem ascription_absent (hkind : nextKind s.rest = .colon ∨ nextKind s.rest = .assign) :
    Reads (ascription s) .absent s.rest := by
  have hlook : (s.look.kind == .colon || s.look.kind == .assign) = true := by
    rw [look_kind, kind_eq]
    simpa using hkind
  rw [Reads, ascription, Run.outcome_entering, if_pos hlook]
  exact ⟨_, rfl, rfl, look_rest s⟩

private theorem ascription_operand (hstart : Grammar.startsOperand (nextKind s.rest))
    (htype : ∀ t, t.rest = s.rest → Reads (operand t) e w') : Reads (ascription s) e w' := by
  have hlook : ¬ (s.look.kind == .colon || s.look.kind == .assign) = true := by
    rw [look_kind, kind_eq]
    intro hkind
    obtain hk | hk : nextKind s.rest = .colon ∨ nextKind s.rest = .assign := by simpa using hkind
    all_goals simp [hk, Grammar.startsOperand] at hstart
  obtain ⟨r, hr, hvalue, hnext⟩ := htype s.look (look_rest s)
  rw [Reads, ascription, Run.outcome_entering, if_neg hlook, Run.outcome_bind, hr]
  exact ⟨_, rfl, hvalue, hnext⟩

private theorem binding_constant {name first second : Token} {type value : Expr}
    (hrest : s.rest = first :: w) (hfirst : first.kind = .colon) (hsecond : second.kind = .colon)
    (htype : ∀ t, t.rest = w → Reads (ascription t) type (second :: u))
    (hvalue : ∀ t, t.rest = u → Reads (expr t) value w') :
    Reads (binding name s)
      (Tree.expr { kind := .constant, name := name.text, type, value }) w' := by
  obtain ⟨colon, hcolon, -, hnext⟩ := take?_of_rest hrest
  rw [hfirst] at hcolon
  obtain ⟨typed, htyped, rfl, hrest'⟩ := htype colon.next hnext
  obtain ⟨taken, htaken, -, hnext'⟩ := look_take?_of_rest hrest' hsecond
  obtain ⟨r, hr, rfl, hlast⟩ := hvalue taken.next hnext'
  rw [Reads, binding, Run.outcome_entering]
  simp only [hcolon, htyped, htaken, hr, Run.outcome_bind, Run.outcome_after, Outcome.ok_bind]
  exact ⟨_, rfl, bare_built _ _, hlast⟩

private theorem binding_declaration {name first equals : Token} {type value : Expr}
    (hrest : s.rest = first :: w) (hfirst : first.kind = .colon) (hequals : equals.kind = .assign)
    (htype : ∀ t, t.rest = w → Reads (ascription t) type (equals :: u))
    (hvalue : ∀ t, t.rest = u → Reads (expr t) value w') :
    Reads (binding name s)
      (Tree.expr { kind := .declaration, name := name.text, type, value }) w' := by
  obtain ⟨colon, hcolon, -, hnext⟩ := take?_of_rest hrest
  rw [hfirst] at hcolon
  obtain ⟨typed, htyped, rfl, hrest'⟩ := htype colon.next hnext
  have hnone : typed.next.look.take? .colon = none :=
    look_take?_eq_none (by simp [hrest', hequals])
  obtain ⟨taken, htaken, -, hnext'⟩ := look_take?_of_rest hrest' hequals
  obtain ⟨r, hr, rfl, hlast⟩ := hvalue taken.next hnext'
  rw [Reads, binding, Run.outcome_entering]
  simp only [hcolon, htyped, hnone, htaken, hr, Run.outcome_bind, Run.outcome_after,
    Outcome.ok_bind]
  exact ⟨_, rfl, bare_built _ _, hlast⟩

private theorem binding_typed {name first : Token} {type : Expr} (hrest : s.rest = first :: w)
    (hfirst : first.kind = .colon) (hcolon : nextKind w' ≠ .colon) (hassign : nextKind w' ≠ .assign)
    (htype : ∀ t, t.rest = w → Reads (ascription t) type w') :
    Reads (binding name s) (Tree.expr { kind := .declaration, name := name.text, type }) w' := by
  obtain ⟨colon, htaken, -, hnext⟩ := take?_of_rest hrest
  rw [hfirst] at htaken
  obtain ⟨typed, htyped, rfl, rfl⟩ := htype colon.next hnext
  rw [Reads, binding, Run.outcome_entering]
  simp only [htaken, htyped, look_take?_eq_none hcolon, look_take?_eq_none hassign,
    Run.outcome_bind, Run.outcome_after,
    Outcome.ok_bind]
  exact ⟨_, rfl, bare_built _ _, look_rest _⟩

private theorem expr_binding {name first : Token} (hrest : s.rest = name :: first :: w)
    (hname : name.kind = .ident) (hfirst : first.kind = .colon)
    (hbinding : ∀ t, t.rest = first :: w → Reads (binding name t) e w') : Reads (expr s) e w' := by
  obtain ⟨taken, htaken, rfl, hnext⟩ := look_take?_of_rest hrest hname
  have hkind : (taken.next.look.kind == .colon) = true := by
    rw [look_kind, kind_eq, hnext]
    simpa using hfirst
  obtain ⟨r, hr, hvalue, hlast⟩ := hbinding taken.next.look (by rw [look_rest, hnext])
  rw [Reads, expr, Run.outcome_entering]
  simp only [htaken, hkind, hr, if_true, Run.outcome_bind, Run.outcome_after, Outcome.ok_bind]
  exact ⟨_, rfl, hvalue, hlast⟩

private theorem expr_name {name : Token} (hrest : s.rest = name :: w) (hname : name.kind = .ident)
    (hcolon : nextKind w ≠ .colon)
    (hops : ∀ start first t, first.bare = Tree.expr { kind := .name, name := name.text } →
      t.rest = w → Reads (postfixes start first t) e w') : Reads (expr s) e w' := by
  obtain ⟨taken, htaken, rfl, hnext⟩ := look_take?_of_rest hrest hname
  have hkind : ¬ (taken.next.look.kind == .colon) = true := by
    rw [look_kind, kind_eq, hnext]
    simpa using hcolon
  obtain ⟨r, hr, hvalue, hlast⟩ := hops taken.token.span _ taken.next.look.building
    (bare_built taken.next.look
      { kind := .name, span := taken.token.span, nameSpan := taken.token.span,
        name := taken.token.text }) (by rw [building_rest, look_rest, hnext])
  rw [Reads, expr, Run.outcome_entering]
  rw [htaken]
  dsimp only
  rw [if_neg hkind, Run.outcome_bind, Run.outcome_after, hr]
  exact ⟨_, rfl, hvalue, hlast⟩

private theorem expr_operand (hkind : nextKind s.rest ≠ .ident) (h : Reads (operand s) e w') :
    Reads (expr s) e w' := by
  rw [Reads, expr, Run.outcome_entering]
  rw [look_take?_eq_none hkind]
  exact h

private theorem operand_bracket {opening : Token} (hrest : s.rest = opening :: w)
    (hopening : opening.kind = .lbracket)
    (htype : ∀ start t, t.rest = w → Reads (bracketType start t) e w') :
    Reads (operand s) e w' := by
  obtain ⟨taken, htaken, -, hnext⟩ := look_take?_of_rest hrest hopening
  obtain ⟨r, hr, hvalue, hlast⟩ := htype taken.token.span taken.next hnext
  rw [Reads, operand, Run.outcome_entering]
  simp only [htaken, hr, Run.outcome_bind, Run.outcome_after, Outcome.ok_bind]
  exact ⟨_, rfl, hvalue, hlast⟩

private theorem operand_pointer {mark : Token} (hrest : s.rest = mark :: w)
    (hmark : mark.kind = .caret) (helem : ∀ t, t.rest = w → Reads (operand t) e w') :
    Reads (operand s) (Tree.expr { kind := .pointerType, type := e }) w' := by
  have hbracket : s.look.take? .lbracket = none := look_take?_eq_none (by simp [hrest, hmark])
  obtain ⟨taken, htaken, -, hnext⟩ := look_take?_of_rest hrest hmark
  obtain ⟨r, hr, rfl, hlast⟩ := helem taken.next hnext
  rw [Reads, operand, Run.outcome_entering]
  simp only [hbracket, htaken, hr, Run.outcome_bind, Run.outcome_after, Outcome.ok_bind]
  exact ⟨_, rfl, bare_built _ _, hlast⟩

private theorem operand_name {name : Token} (hrest : s.rest = name :: w)
    (hname : name.kind = .ident)
    (hops : ∀ start first t, first.bare = Tree.expr { kind := .name, name := name.text } →
      t.rest = w → Reads (postfixes start first t) e w') : Reads (operand s) e w' := by
  have hbracket : s.look.take? .lbracket = none := look_take?_eq_none (by simp [hrest, hname])
  have hcaret : s.look.take? .caret = none := look_take?_eq_none (by simp [hrest, hname])
  obtain ⟨taken, htaken, rfl, hnext⟩ := look_take?_of_rest hrest hname
  obtain ⟨r, hr, hvalue, hlast⟩ := hops taken.token.span _ taken.next.building
    (bare_built taken.next
      { kind := .name, span := taken.token.span, nameSpan := taken.token.span,
        name := taken.token.text }) hnext
  rw [Reads, operand, Run.outcome_entering]
  simp only [hbracket, hcaret, htaken, hr, Run.outcome_bind, Run.outcome_after, Outcome.ok_bind]
  exact ⟨_, rfl, hvalue, hlast⟩

private theorem operand_primary {first : Expr} (hbracket : nextKind s.rest ≠ .lbracket)
    (hcaret : nextKind s.rest ≠ .caret) (hident : nextKind s.rest ≠ .ident)
    (hprimary : Reads (primary s) first u)
    (hops : ∀ start d t, d.bare = first → t.rest = u → Reads (postfixes start d t) e w') :
    Reads (operand s) e w' := by
  obtain ⟨d, hd, hfirst, hrest⟩ := hprimary
  obtain ⟨r, hr, hvalue, hlast⟩ := hops d.value.span d.value d.next hfirst hrest
  rw [Reads, operand, Run.outcome_entering]
  simp only [look_take?_eq_none hbracket, look_take?_eq_none hcaret, look_take?_eq_none hident, hd,
    hr, Run.outcome_bind,
    Outcome.ok_bind]
  exact ⟨_, rfl, hvalue, hlast⟩

private theorem bracketType_slice {start : Span} {closing : Token} (hrest : s.rest = closing :: w)
    (hclosing : closing.kind = .rbracket) (helem : ∀ t, t.rest = w → Reads (operand t) e w') :
    Reads (bracketType start s) (Tree.expr { kind := .sliceType, type := e }) w' := by
  obtain ⟨taken, htaken, -, hnext⟩ := look_take?_of_rest hrest hclosing
  obtain ⟨r, hr, rfl, hlast⟩ := helem taken.next hnext
  rw [Reads, bracketType, Run.outcome_entering]
  simp only [htaken, hr, Run.outcome_bind, Run.outcome_after, Outcome.ok_bind]
  exact ⟨_, rfl, bare_built _ _, hlast⟩

private theorem bracketType_multipointer {start : Span} {mark closing : Token}
    (hrest : s.rest = mark :: closing :: w) (hmark : mark.kind = .caret)
    (hclosing : closing.kind = .rbracket) (helem : ∀ t, t.rest = w → Reads (operand t) e w') :
    Reads (bracketType start s) (Tree.expr { kind := .multipointerType, type := e }) w' := by
  have hbracket : s.look.take? .rbracket = none := look_take?_eq_none (by simp [hrest, hmark])
  obtain ⟨caret, hcaret, -, hnext⟩ := look_take?_of_rest hrest hmark
  obtain ⟨taken, htaken, -, hnext'⟩ := expect_of_rest (.token .rbracket) hnext
  rw [hclosing] at htaken
  obtain ⟨r, hr, rfl, hlast⟩ := helem taken.next hnext'
  rw [Reads, bracketType, Run.outcome_entering]
  simp only [hbracket, hcaret, htaken, hr, Run.outcome_bind, Run.outcome_after, Outcome.ok_bind]
  exact ⟨_, rfl, bare_built _ _, hlast⟩

private theorem bracketType_array {start : Span} {closing : Token} {length : Expr}
    (hstart : Grammar.startsOperand (nextKind s.rest)) (hunmarked : nextKind s.rest ≠ .caret)
    (hclosing : closing.kind = .rbracket)
    (hlength : ∀ t, t.rest = s.rest → Reads (operand t) length (closing :: u))
    (helem : ∀ t, t.rest = u → Reads (operand t) e w') :
    Reads (bracketType start s)
      (Tree.expr { kind := .arrayType, type := e, value := length }) w' := by
  have hbracket : s.look.take? .rbracket = none :=
    look_take?_eq_none fun hk => by simp [hk, Grammar.startsOperand] at hstart
  obtain ⟨d, hd, rfl, hrest⟩ := hlength s.look (look_rest s)
  obtain ⟨taken, htaken, -, hnext⟩ := expect_of_rest (.token .rbracket) hrest
  rw [hclosing] at htaken
  obtain ⟨r, hr, rfl, hlast⟩ := helem taken.next hnext
  rw [Reads, bracketType, Run.outcome_entering]
  simp only [hbracket, look_take?_eq_none hunmarked, hd, htaken, hr, Run.outcome_bind,
    Outcome.ok_bind]
  exact ⟨_, rfl, bare_built _ _, hlast⟩

private theorem postfixes_nil {start : Span} {d : Expr} (hlparen : nextKind s.rest ≠ .lparen)
    (hdot : nextKind s.rest ≠ .dot) : Reads (postfixes start d s) d.bare s.rest := by
  rw [Reads, postfixes, Run.outcome_entering]
  simp only [look_take?_eq_none hlparen, look_take?_eq_none hdot]
  exact ⟨_, rfl, rfl, look_rest s⟩

private theorem postfixes_call {start : Span} {d : Expr} {args : List Expr}
    (hkind : nextKind s.rest = .lparen)
    (hargs : ∀ t, t.rest = s.rest.tail → ReadsAll (arguments t) args u)
    (hops : ∀ f t, f.bare = Operator.apply d.bare (.call args) → t.rest = u →
      Reads (postfixes start f t) e w') : Reads (postfixes start d s) e w' := by
  obtain ⟨taken, htaken, hnext⟩ := look_take?_of_nextKind hkind (by decide)
  obtain ⟨list, hlist, rfl, hrest'⟩ := hargs taken.next hnext
  obtain ⟨r, hr, hvalue, hlast⟩ := hops _ list.next.building
    (bare_built list.next
      { kind := .call, span := start.cover list.next.lastSpan, value := d, list := list.value })
    hrest'
  rw [Reads, postfixes, Run.outcome_entering]
  simp only [htaken, hlist, hr, Run.outcome_bind, Run.outcome_after, Run.outcome_again,
    Outcome.ok_bind]
  exact ⟨_, rfl, hvalue, hlast⟩

private theorem postfixes_member {start : Span} {d : Expr} {dot name : Token}
    (hrest : s.rest = dot :: name :: w) (hdot : dot.kind = .dot) (hname : name.kind = .ident)
    (hops : ∀ f t, f.bare = Operator.apply d.bare (.member name.text) → t.rest = w →
      Reads (postfixes start f t) e w') : Reads (postfixes start d s) e w' := by
  have hparen : s.look.take? .lparen = none := look_take?_eq_none (by simp [hrest, hdot])
  obtain ⟨mark, hmark, -, hnext⟩ := look_take?_of_rest hrest hdot
  obtain ⟨taken, htaken, rfl, hnext'⟩ := expect_of_rest .identifier hnext
  rw [hname] at htaken
  obtain ⟨r, hr, hvalue, hlast⟩ := hops _ taken.next.building
    (bare_built taken.next
      { kind := .member, span := start.cover taken.next.lastSpan, value := d,
        nameSpan := taken.token.span, name := taken.token.text }) hnext'
  rw [Reads, postfixes, Run.outcome_entering]
  simp only [hparen, hmark, htaken, hr, Run.outcome_bind, Run.outcome_after, Run.outcome_again,
    Outcome.ok_bind]
  exact ⟨_, rfl, hvalue, hlast⟩

private theorem arguments_entries {list : List Expr} {closing : Token}
    (hnewlines : Skips isNewline s.rest w) (hkind : isNewline (nextKind w) = false)
    (hclosing : closing.kind = .rparen)
    (hlist : ∀ t, t.rest = w → ReadsAll (argumentEntries t) list (closing :: w')) :
    ReadsAll (arguments s) list w' := by
  obtain ⟨entries, hentries, hvalue, hrest⟩ :=
    hlist (s.skip isNewline).1 (skip_rest hnewlines rfl hkind)
  obtain ⟨taken, htaken, -, hnext⟩ := expect_of_rest (.token .rparen) hrest
  rw [hclosing] at htaken
  rw [ReadsAll, arguments, Run.outcome_entering]
  simp only [hentries, htaken, Run.outcome_bind, Run.outcome_after, Outcome.ok_bind]
  exact ⟨_, rfl, hvalue, hnext⟩

private theorem argumentEntries_none (hkind : nextKind s.rest = .rparen) :
    ReadsAll (argumentEntries s) [] s.rest := by
  have hlook : (s.look.kind == .rparen) = true := by
    rw [look_kind, kind_eq]
    simpa using hkind
  rw [ReadsAll, argumentEntries, Run.outcome_entering, if_pos hlook]
  exact ⟨_, rfl, rfl, look_rest s⟩

private theorem look_kind_ne_rparen (hstart : Grammar.startsOperand (nextKind s.rest)) :
    ¬ (s.look.kind == .rparen) = true := by
  rw [look_kind, kind_eq]
  intro hkind
  rw [beq_iff_eq.mp hkind] at hstart
  cases hstart

private theorem argumentEntries_last (hstart : Grammar.startsOperand (nextKind s.rest))
    (hfirst : ∀ t, t.rest = s.rest → Reads (expr t) e u) (hnewlines : Skips isNewline u w')
    (hkind : nextKind w' = .rparen) : ReadsAll (argumentEntries s) [e] w' := by
  obtain ⟨first, hd, rfl, hrest⟩ := hfirst s.look (look_rest s)
  have hskip : (first.next.skip isNewline).1.rest = w' :=
    skip_rest (hrest ▸ hnewlines) rfl (by rw [hkind]; rfl)
  have hcomma : (first.next.skip isNewline).1.take? .comma = none :=
    take?_eq_none (by rw [hskip, hkind]; decide)
  rw [ReadsAll, argumentEntries, Run.outcome_entering, if_neg (look_kind_ne_rparen hstart)]
  simp only [hd, hcomma, Run.outcome_bind, Run.outcome_after, Outcome.ok_bind]
  exact ⟨_, rfl, rfl, hskip⟩

private theorem argumentEntries_more {comma : Token} {es : List Expr} {v : List Token}
    (hstart : Grammar.startsOperand (nextKind s.rest))
    (hfirst : ∀ t, t.rest = s.rest → Reads (expr t) e u)
    (hbefore : Skips isNewline u (comma :: w)) (hcomma : comma.kind = .comma)
    (hafter : Skips isNewline w v) (hkind : isNewline (nextKind v) = false)
    (hothers : ∀ t, t.rest = v → ReadsAll (argumentEntries t) es w') :
    ReadsAll (argumentEntries s) (e :: es) w' := by
  obtain ⟨first, hd, rfl, hrest⟩ := hfirst s.look (look_rest s)
  have hskip : (first.next.skip isNewline).1.rest = comma :: w :=
    skip_rest (hrest ▸ hbefore) rfl (by rw [Grammar.nextKind_cons, hcomma]; rfl)
  obtain ⟨taken, htaken, -, hnext⟩ := take?_of_rest hskip
  rw [hcomma] at htaken
  obtain ⟨others, ho, rfl, hlast⟩ :=
    hothers (taken.next.skip isNewline).1 (skip_rest (hnext ▸ hafter) rfl hkind)
  rw [ReadsAll, argumentEntries, Run.outcome_entering, if_neg (look_kind_ne_rparen hstart)]
  simp only [hd, htaken, ho, Run.outcome_bind, Run.outcome_after, Run.outcome_again,
    Outcome.ok_bind]
  exact ⟨_, rfl, rfl, hlast⟩

private theorem primary_intLit {literal : Token} (hrest : s.rest = literal :: w)
    (hliteral : literal.kind = .intLit) :
    Reads (primary s) (Tree.expr { kind := .intLit, name := literal.text }) w := by
  obtain ⟨taken, htaken, rfl, hnext⟩ := look_take?_of_rest hrest hliteral
  rw [Reads, primary, Run.outcome_entering]
  simp only [htaken]
  exact ⟨_, rfl, bare_built _ _, hnext⟩

private theorem primary_parenthesised (hkind : nextKind s.rest = .lparen)
    (hinner : ∀ start t, t.rest = s.rest.tail → Reads (parenthesised start t) e w') :
    Reads (primary s) e w' := by
  have hliteral : s.look.take? .intLit = none := look_take?_eq_none (by simp [hkind])
  obtain ⟨taken, htaken, hnext⟩ := look_take?_of_nextKind hkind (by decide)
  obtain ⟨r, hr, hvalue, hlast⟩ := hinner taken.token.span taken.next hnext
  rw [Reads, primary, Run.outcome_entering]
  simp only [hliteral, htaken, hr, Run.outcome_bind, Run.outcome_after, Outcome.ok_bind]
  exact ⟨_, rfl, hvalue, hlast⟩

private theorem primary_block (hkind : nextKind s.rest = .lbrace)
    (hinner : ∀ start t, t.rest = s.rest.tail → Reads (block start t) e w') :
    Reads (primary s) e w' := by
  have hliteral : s.look.take? .intLit = none := look_take?_eq_none (by simp [hkind])
  have hparen : s.look.take? .lparen = none := look_take?_eq_none (by simp [hkind])
  obtain ⟨taken, htaken, hnext⟩ := look_take?_of_nextKind hkind (by decide)
  obtain ⟨r, hr, hvalue, hlast⟩ := hinner taken.token.span taken.next hnext
  rw [Reads, primary, Run.outcome_entering]
  simp only [hliteral, hparen, htaken, hr, Run.outcome_bind, Run.outcome_after, Outcome.ok_bind]
  exact ⟨_, rfl, hvalue, hlast⟩

private theorem parenthesised_paren {start : Span} (hargs : ReadsAll (arguments s) [e] w')
    (hother : e.kind ≠ .declaration) (harrow : nextKind w' ≠ .arrow) :
    Reads (parenthesised start s) (Tree.expr { kind := .paren, value := e }) w' := by
  obtain ⟨args, ha, hvalue, rfl⟩ := hargs
  obtain ⟨d, hd, rfl⟩ := List.map_eq_singleton_iff.mp hvalue
  rw [Reads, parenthesised, Run.outcome_entering]
  simp only [ha, look_take?_eq_none harrow, Run.outcome_bind, Outcome.ok_bind]
  have hsingle : (([] : List Expr).isEmpty && d.kind != .declaration) = true := by
    simpa using hother
  rw [hd, grouped, if_pos hsingle]
  exact ⟨_, rfl, bare_built _ _, look_rest _⟩

private theorem parenthesised_structType {start : Span} {fields : List Expr}
    (hargs : ReadsAll (arguments s) fields w') (hsome : fields ≠ [])
    (hdeclared : ∀ d ∈ fields, d.kind = .declaration) (harrow : nextKind w' ≠ .arrow) :
    Reads (parenthesised start s) (Tree.expr { kind := .structType, list := fields }) w' := by
  obtain ⟨args, ha, rfl, rfl⟩ := hargs
  rw [Reads, parenthesised, Run.outcome_entering]
  simp only [ha, look_take?_eq_none harrow, Run.outcome_bind, Outcome.ok_bind]
  have hrequired := requireDeclarations_of_all (s := args.next.look) hdeclared
  cases hlist : args.value with
  | nil => simp [hlist] at hsome
  | cons first others =>
    rw [hlist] at hrequired hdeclared
    have hdeclaration : first.kind = .declaration := by simpa using hdeclared first.bare (by simp)
    have hsingle : ¬ (others.isEmpty && first.kind != .declaration) = true := by
      simp [hdeclaration]
    rw [grouped, if_neg hsingle, Run.outcome_bind, hrequired, Outcome.ok_bind]
    exact ⟨_, rfl, bare_built _ _, look_rest _⟩

private theorem parenthesised_procedureType {start : Span} {params : List Expr} {arrow : Token}
    (hargs : ReadsAll (arguments s) params (arrow :: w)) (harrow : arrow.kind = .arrow)
    (hdeclared : ∀ d ∈ params, d.kind = .declaration)
    (htype : ∀ t, t.rest = w → Reads (operand t) e w') (hbrace : nextKind w' ≠ .lbrace) :
    Reads (parenthesised start s)
      (Tree.expr { kind := .procedureType, type := e, list := params }) w' := by
  obtain ⟨args, ha, rfl, hrest⟩ := hargs
  obtain ⟨taken, htaken, -, hnext⟩ := look_take?_of_rest hrest harrow
  obtain ⟨ret, hret, rfl, rfl⟩ := htype taken.next hnext
  have hrequired := requireDeclarations_of_all (s := taken.next) hdeclared
  rw [Reads, parenthesised, Run.outcome_entering]
  simp only [ha, htaken, hrequired, hret, look_take?_eq_none hbrace, Run.outcome_bind,
    Run.outcome_after, Outcome.ok_bind]
  exact ⟨_, rfl, bare_built _ _, look_rest _⟩

private theorem parenthesised_procedure {start : Span} {params : List Expr} {arrow : Token}
    {type : Expr}
    (hargs : ReadsAll (arguments s) params (arrow :: w)) (harrow : arrow.kind = .arrow)
    (hdeclared : ∀ d ∈ params, d.kind = .declaration)
    (htype : ∀ t, t.rest = w → Reads (operand t) type u) (hbrace : nextKind u = .lbrace)
    (hbody : ∀ start t, t.rest = u.tail → Reads (block start t) e w') :
    Reads (parenthesised start s)
      (Tree.expr { kind := .procedure, type, body := e, list := params }) w' := by
  obtain ⟨args, ha, rfl, hrest⟩ := hargs
  obtain ⟨taken, htaken, -, hnext⟩ := look_take?_of_rest hrest harrow
  obtain ⟨ret, hret, rfl, rfl⟩ := htype taken.next hnext
  obtain ⟨brace, htaken', hnext'⟩ := look_take?_of_nextKind hbrace (by decide)
  obtain ⟨body, hb, rfl, hlast⟩ := hbody brace.token.span brace.next hnext'
  have hrequired := requireDeclarations_of_all (s := taken.next) hdeclared
  rw [Reads, parenthesised, Run.outcome_entering]
  simp only [ha, htaken, hrequired, hret, htaken', hb, Run.outcome_bind, Run.outcome_after,
    Outcome.ok_bind]
  exact ⟨_, rfl, bare_built _ _, hlast⟩

private theorem block_entries {start : Span} {list : List Expr}
    (h : ReadsAll (blockEntries s) list w') :
    Reads (block start s) (Tree.expr { kind := .block, list }) w' := by
  obtain ⟨entries, hentries, rfl, hlast⟩ := h
  rw [Reads, block, Run.outcome_entering]
  simp only [hentries, Run.outcome_bind, Outcome.ok_bind]
  exact ⟨_, rfl, bare_built _ _, hlast⟩

private theorem blockEntries_empty (hseps : Skips TokenKind.isSeparator s.rest w')
    (hkind : nextKind w' = .rbrace) : ReadsAll (blockEntries s) [] w'.tail := by
  have hskip : (s.skip TokenKind.isSeparator).1.rest = w' :=
    skip_rest hseps rfl (by rw [hkind]; rfl)
  cases w' with
  | nil => cases hkind
  | cons closing w =>
    obtain ⟨taken, htaken, -, hnext⟩ := take?_of_rest hskip
    rw [show closing.kind = .rbrace from hkind] at htaken
    rw [ReadsAll, blockEntries, Run.outcome_entering]
    simp only [htaken]
    exact ⟨_, rfl, rfl, hnext⟩

private theorem blockEntries_cons {es : List Expr} (hseps : Skips TokenKind.isSeparator s.rest w)
    (hstart : Grammar.startsOperand (nextKind w)) (hfirst : ∀ t, t.rest = w → Reads (expr t) e u)
    (hothers : ∀ t, t.rest = u → ∃ v, (endItem t).outcome = .ok v ∧
      nextKind v.1.rest ∉ [.rparen, .rbracket, .endOfFile] ∧
      ReadsAll (blockEntries v.1.look) es w') :
    ReadsAll (blockEntries s) (e :: es) w' := by
  have hskip : (s.skip TokenKind.isSeparator).1.rest = w :=
    skip_rest hseps rfl (Grammar.isSeparator_of_starts hstart)
  have hbrace : (s.skip TokenKind.isSeparator).1.take? .rbrace = none :=
    take?_eq_none (by rw [hskip]; exact Grammar.ne_of_starts hstart rfl)
  obtain ⟨first, hd, rfl, hrest⟩ := hfirst _ hskip
  obtain ⟨v, hv, hopen, others, ho, rfl, hlast⟩ := hothers first.next hrest
  rw [ReadsAll, blockEntries, Run.outcome_entering]
  simp only [hbrace, hd, hv, Run.outcome_bind, Run.outcome_after, Outcome.ok_bind]
  rw [look_kind, kind_eq]
  split
  case h_4 =>
    rw [Run.outcome_bind, Run.outcome_again, ho]
    exact ⟨_, rfl, rfl, hlast⟩
  all_goals
    next hkind =>
      rw [hkind] at hopen
      exact absurd hopen (by decide)

end Steps

def endsExpression (k : TokenKind) : Bool :=
  [.newline, .semicolon, .comma, .rparen, .rbrace, .endOfFile].contains k

private theorem nextKind_ne_of_ends {w : List Token} {k : TokenKind}
    (h : endsExpression (nextKind w)) (hk : endsExpression k = false) : nextKind w ≠ k := by
  rintro rfl
  rw [h] at hk
  cases hk

private theorem settled_of_nextKind {w : List Token} {k : TokenKind} (h : nextKind w = k)
    (hk : [.lparen, .dot, .lbrace].contains k = false) (dangling : Bool) : Settled dangling w := by
  subst h
  simp only [List.contains_eq_mem, List.mem_cons, List.not_mem_nil, or_false, not_or,
    decide_eq_false_iff_not] at hk
  exact ⟨hk.1, hk.2.1, fun _ => hk.2.2⟩

private theorem settled_of_ends {w : List Token} (h : endsExpression (nextKind w))
    (dangling : Bool) : Settled dangling w :=
  ⟨nextKind_ne_of_ends h rfl, nextKind_ne_of_ends h rfl, fun _ => nextKind_ne_of_ends h rfl⟩

private theorem ends_of_newlines {s w : List Token} (h : Skips isNewline s w)
    (hw : endsExpression (nextKind w)) : endsExpression (nextKind s) := by
  obtain hskip | rfl := h.nextKind_cases
  · rw [show nextKind s = .newline by simpa [isNewline] using hskip]
    rfl
  · exact hw

theorem ends_of_rest {greedy : Prop} {s w : List Token} {list : List Expr}
    (h : Rest greedy s list w) (hw : endsExpression (nextKind w)) :
    endsExpression (nextKind s) := by
  cases h with
  | nil => exact hw
  | separated hsep _ =>
    obtain hk | hk : _ = TokenKind.newline ∨ _ = TokenKind.semicolon := by
      simpa [TokenKind.isSeparator] using hsep
    all_goals simp [hk, endsExpression]

private theorem isNewline_of_entries {greedy : Prop} {s w : List Token} {list : List Expr}
    (h : Entries greedy s list w) (hw : isNewline (nextKind w) = false) :
    isNewline (nextKind s) = false := by
  obtain hstart | rfl := h.nextKind_cases
  · generalize nextKind s = kind at hstart
    cases kind
    all_goals first
      | rfl
      | cases hstart
  · exact hw

private theorem open_of_sequence {greedy : Prop} {s w : List Token} {list : List Expr}
    (h : Sequence greedy s list w) (hw : nextKind w = .rbrace) :
    nextKind s ∉ [.rparen, .rbracket, .endOfFile] := by
  have hcases := h.nextKind_cases
  rw [hw] at hcases
  generalize nextKind s = kind at hcases
  cases kind
  all_goals first
    | decide
    | exact absurd hcases (by decide)

mutual

theorem expr_complete {w w' : List Token} {e : Expr} : Expression True w e w' →
    endsExpression (nextKind w') → ∀ s : TokenStream, s.rest = w → Reads (expr s) e w'
  | .operand hoperand, hends, s, hrest =>
    (operand_complete hoperand (settled_of_ends hends _) (nextKind_ne_of_ends hends rfl) s hrest).2
      (nextKind_ne_of_ends hends rfl)
  | .constant hname hfirst htype hsecond hvalue, hends, s, hrest =>
    expr_binding hrest hname hfirst fun _ ht => binding_constant ht hfirst hsecond
      (ascription_complete htype (.inl hsecond)) (expr_complete hvalue hends)
  | .declaration hname hfirst htype hequals hvalue, hends, s, hrest =>
    expr_binding hrest hname hfirst fun _ ht => binding_declaration ht hfirst hequals
      (ascription_complete htype (.inr hequals)) (expr_complete hvalue hends)
  | .typed hname hfirst htype, hends, s, hrest =>
    expr_binding hrest hname hfirst fun _ ht => binding_typed ht hfirst
      (nextKind_ne_of_ends hends rfl) (nextKind_ne_of_ends hends rfl) fun _ hu =>
        ascription_operand (hu ▸ htype.starts) fun v hv =>
          (operand_complete htype (settled_of_ends hends _) (nextKind_ne_of_ends hends rfl) v
            (hv.trans hu)).1

private theorem ascription_complete {w w' : List Token} {e : Expr} : Ascription True w e w' →
    nextKind w' = .colon ∨ nextKind w' = .assign →
    ∀ s : TokenStream, s.rest = w → Reads (ascription s) e w'
  | .none, hkind, s, hrest => hrest ▸ ascription_absent (hrest ▸ hkind)
  | .some hoperand, .inl hkind, s, hrest =>
    ascription_operand (hrest ▸ hoperand.starts) fun t ht =>
      (operand_complete hoperand (settled_of_nextKind hkind rfl _) (by simp [hkind]) t
        (ht.trans hrest)).1
  | .some hoperand, .inr hkind, s, hrest =>
    ascription_operand (hrest ▸ hoperand.starts) fun t ht =>
      (operand_complete hoperand (settled_of_nextKind hkind rfl _) (by simp [hkind]) t
        (ht.trans hrest)).1

/-- An operand is read as such, and also where a name could be bound if no colon follows. -/
theorem operand_complete {w w' : List Token} {e : Expr} {dangling : Bool} :
    Operand True w e dangling w' → Settled dangling w' → nextKind w' ≠ .arrow →
    ∀ s : TokenStream, s.rest = w →
      Reads (operand s) e w' ∧ (nextKind w' ≠ .colon → Reads (expr s) e w')
  | .slice hopening hclosing helem, hsettled, harrow, s, hrest => by
    have h := operand_bracket hrest hopening fun _ t ht => bracketType_slice ht hclosing
      fun v hv => (operand_complete helem hsettled harrow v hv).1
    exact ⟨h, fun _ => expr_operand (by simp [hrest, hopening]) h⟩
  | .multipointer hopening hmark hclosing helem, hsettled, harrow, s, hrest => by
    have h := operand_bracket hrest hopening fun _ t ht => bracketType_multipointer ht hmark
      hclosing fun v hv => (operand_complete helem hsettled harrow v hv).1
    exact ⟨h, fun _ => expr_operand (by simp [hrest, hopening]) h⟩
  | .array hopening hunmarked hlength hclosing helem, hsettled, harrow, s, hrest => by
    have h := operand_bracket hrest hopening fun _ t ht =>
      bracketType_array (ht ▸ hlength.starts) (ht ▸ hunmarked) hclosing
        (fun v hv => (operand_complete hlength
          (settled_of_nextKind (k := .rbracket) (by simpa using hclosing) rfl _)
          (by simp [hclosing]) v (hv.trans ht)).1)
        fun v hv => (operand_complete helem hsettled harrow v hv).1
    exact ⟨h, fun _ => expr_operand (by simp [hrest, hopening]) h⟩
  | .pointer hmark helem, hsettled, harrow, s, hrest => by
    have h := operand_pointer hrest hmark
      fun v hv => (operand_complete helem hsettled harrow v hv).1
    exact ⟨h, fun _ => expr_operand (by simp [hrest, hmark]) h⟩
  | .applied hprimary hops hinnermost, hsettled, harrow, s, hrest => by
    have hpostfixes := operators_complete hops hsettled.lparen hsettled.dot
    -- Names are read without the step for primary operands, which does not know them.
    by_cases hident : nextKind w = .ident
    · obtain ⟨name, hname, rfl, rfl, rfl⟩ := hprimary.eq_name hident
      refine ⟨operand_name hrest hname ?_, fun hcolon =>
        expr_name hrest hname (hops.nextKind_ne (by decide) hcolon) ?_⟩
      all_goals exact fun start first t hfirst ht => hfirst ▸ hpostfixes start first t ht
    · have hkind := hprimary.starts
      have hprimary' := primary_complete hprimary hident (hops.nextKind_ne (by decide) harrow)
        (fun hd => by
          have hnil := hinnermost trivial hd
          subst hd hnil
          rw [hops.eq_of_nil rfl]
          exact hsettled) s hrest
      have h := operand_primary (by rw [hrest]; intro hk; simp [hk] at hkind)
        (by rw [hrest]; intro hk; simp [hk] at hkind) (by rwa [hrest]) hprimary'
        fun start d t hd ht => hd ▸ hpostfixes start d t ht
      exact ⟨h, fun _ => expr_operand (by rwa [hrest]) h⟩

private theorem primary_complete {w w' : List Token} {e : Expr} {dangling : Bool} :
    Primary True w e dangling w' → nextKind w ≠ .ident → nextKind w' ≠ .arrow →
    (dangling = true → Settled true w') →
    ∀ s : TokenStream, s.rest = w → Reads (primary s) e w'
  | .name hname, hident, _, _, _, _ => absurd hname hident
  | .intLit hliteral, _, _, _, s, hrest => primary_intLit hrest hliteral
  | .block hblock, _, _, _, s, hrest =>
    primary_block (hrest ▸ hblock.starts) fun start t ht =>
      block_complete hblock start t (hrest ▸ ht)
  | .paren hargs hother, _, harrow, _, s, hrest =>
    primary_parenthesised (hrest ▸ hargs.starts) fun _ t ht =>
      parenthesised_paren (arguments_complete hargs t (hrest ▸ ht)) hother harrow
  | .structType hargs hsome hdeclared, _, harrow, _, s, hrest =>
    primary_parenthesised (hrest ▸ hargs.starts) fun _ t ht =>
      parenthesised_structType (arguments_complete hargs t (hrest ▸ ht)) hsome hdeclared harrow
  | .procedureType hargs hdeclared harrow htype, _, hafter, hsettled, s, hrest =>
    primary_parenthesised (hrest ▸ hargs.starts) fun _ t ht =>
      parenthesised_procedureType (arguments_complete hargs t (hrest ▸ ht)) harrow hdeclared
        (fun v hv => (operand_complete htype ⟨(hsettled rfl).lparen, (hsettled rfl).dot,
          fun _ => (hsettled rfl).lbrace rfl⟩ hafter v hv).1) ((hsettled rfl).lbrace rfl)
  | .procedure hargs hdeclared harrow htype hbody hinnermost, _, _, _, s, hrest =>
    primary_parenthesised (hrest ▸ hargs.starts) fun _ t ht =>
      parenthesised_procedure (arguments_complete hargs t (hrest ▸ ht)) harrow hdeclared
        (fun v hv => (operand_complete htype ⟨by simp [hbody.starts], by simp [hbody.starts],
          fun hd => absurd (hinnermost trivial) (by simp [hd])⟩ (by simp [hbody.starts]) v hv).1)
        hbody.starts (block_complete hbody)

private theorem operators_complete {w w' : List Token} {ops : List Operator} :
    Operators True w ops w' →
    nextKind w' ≠ .lparen → nextKind w' ≠ .dot → ∀ (start : Span) (d : Expr) (s : TokenStream),
      s.rest = w → Reads (postfixes start d s) (ops.foldl Operator.apply d.bare) w'
  | .nil, hlparen, hdot, start, d, s, hrest =>
    hrest ▸ postfixes_nil (hrest ▸ hlparen) (hrest ▸ hdot)
  | .call hargs hops, hlparen, hdot, start, d, s, hrest =>
    postfixes_call (hrest ▸ hargs.starts) (fun t ht => arguments_complete hargs t (hrest ▸ ht))
      fun f t hf ht => by
        have h := operators_complete hops hlparen hdot start f t ht
        rwa [hf] at h
  | .member hdot' hname hops, hlparen, hdot, start, d, s, hrest =>
    postfixes_member hrest hdot' hname fun f t hf ht => by
      have h := operators_complete hops hlparen hdot start f t ht
      rwa [hf] at h

private theorem block_complete {w w' : List Token} {e : Expr} : Grammar.Block True w e w' →
    ∀ (start : Span) (s : TokenStream), s.rest = w.tail → Reads (block start s) e w'
  | .mk _ hlist hclosing, _, s, hrest =>
    block_entries (sequence_complete hlist hclosing s hrest)

private theorem arguments_complete {w w' : List Token} {list : List Expr} :
    Arguments True w list w' → ∀ s : TokenStream, s.rest = w.tail → ReadsAll (arguments s) list w'
  | .mk _ hnewlines hlist hclosing, s, hrest => by
    refine arguments_entries (hrest ▸ hnewlines) ?_ hclosing (entries_complete hlist hclosing)
    exact isNewline_of_entries hlist (by simp [hclosing, isNewline])

private theorem entries_complete {w w' : List Token} {list : List Expr} : Entries True w list w' →
    nextKind w' = .rparen → ∀ s : TokenStream, s.rest = w → ReadsAll (argumentEntries s) list w'
  | .none, hkind, s, hrest => hrest ▸ argumentEntries_none (hrest ▸ hkind)
  | .last hfirst hnewlines, hkind, s, hrest =>
    argumentEntries_last (hrest ▸ hfirst.starts)
      (fun t ht => expr_complete hfirst
        (ends_of_newlines hnewlines (by simp [hkind, endsExpression])) t (ht.trans hrest))
      hnewlines hkind
  | .more hfirst hbefore hcomma hafter hothers, hkind, s, hrest =>
    argumentEntries_more (hrest ▸ hfirst.starts)
      (fun t ht => expr_complete hfirst
        (ends_of_newlines hbefore (by simp [hcomma, endsExpression])) t (ht.trans hrest))
      hbefore hcomma hafter (isNewline_of_entries hothers (by simp [hkind, isNewline]))
      (entries_complete hothers hkind)

/-- The entries of a block are read with the brace that closes it. -/
theorem sequence_complete {w w' : List Token} {list : List Expr} : Sequence True w list w' →
    nextKind w' = .rbrace →
    ∀ s : TokenStream, s.rest = w → ReadsAll (blockEntries s) list w'.tail
  | .empty hseps, hkind, s, hrest => blockEntries_empty (hrest ▸ hseps) hkind
  | .cons hseps hfirst hothers, hkind, s, hrest =>
    blockEntries_cons (hrest ▸ hseps) hfirst.starts
      (expr_complete hfirst (ends_of_rest hothers (by simp [hkind, endsExpression])))
      (rest_complete hothers hkind)

private theorem rest_complete {w w' : List Token} {list : List Expr} : Rest True w list w' →
    nextKind w' = .rbrace → ∀ s : TokenStream, s.rest = w → ∃ v, (endItem s).outcome = .ok v ∧
      nextKind v.1.rest ∉ [.rparen, .rbracket, .endOfFile] ∧
      ReadsAll (blockEntries v.1.look) list w'.tail
  | .nil, hkind, s, hrest => by
    subst hrest
    obtain ⟨v, hv, hnext⟩ := endItem_of_closes (s := s) (by rw [hkind]; rfl)
    refine ⟨v, hv, by simp [hnext, hkind], ?_⟩
    exact blockEntries_empty (by rw [look_rest, hnext]; exact .done) hkind
  | .separated hsep hlist, hkind, s, hrest => by
    obtain ⟨v, hv, hnext⟩ := endItem_of_separator hrest hsep
    refine ⟨v, hv, ?_, sequence_complete hlist hkind v.1.look (by rw [look_rest, hnext])⟩
    rw [hnext]
    exact open_of_sequence hlist hkind

end

end Keywordless.Syntax
