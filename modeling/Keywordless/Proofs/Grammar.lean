import Keywordless.Syntax.Parser
import Mathlib

/-!
# The grammar

The grammar as relations between tokens and syntax trees. A relation holds of the tokens from some
point on, the tree of what stands there, and the tokens after it; no rule looks at what comes after.
Trees carry no places and no numbers.

* `file := sequence`, `sequence := sep* (expr (sep+ expr)*)? sep*`, `sep := Newline | ';'`,
* `expr := Ident ':' (':' expr | '=' expr | operand (':' expr | '=' expr)?) | operand`,
* `operand := '[' ']' operand | '[' '^' ']' operand | '[' operand ']' operand | '^' operand
  | primary ('(' args ')' | '.' Ident)*`, where the length of an array does not start with `'^'`,
* `primary := Ident | IntLit | block | '(' args ')' | '(' args ')' '->' operand block?`,
* `block := '{' sequence '}'`,
* `args := Newline* (expr Newline* (',' Newline* expr Newline*)* (',' Newline*)?)?`.

The grammar is ambiguous: after the return type of a procedure, operators and a block may belong to
the return type or to what is around it. A derivation is greedy if they belong to the innermost
operand that can have them.
-/

namespace Keywordless

namespace Expr

mutual

/-- The expression without places and numbers. -/
def bare : Expr → Expr
  | absent => absent
  | node h type value body list =>
    node { kind := h.kind, span := {}, name := h.name } (bare type) (bare value) (bare body)
      (bareAll list)

def bareAll : List Expr → List Expr
  | [] => []
  | e :: rest => bare e :: bareAll rest

end

theorem bareAll_eq_map (list : List Expr) : bareAll list = list.map bare := by
  induction list with
  | nil => rfl
  | cons e rest ih => rw [bareAll, ih, List.map_cons]

@[simp] theorem bare_kind (e : Expr) : e.bare.kind = e.kind := by
  cases e with
  | absent => rfl
  | node h type value body list => rfl

@[simp] theorem bare_isAbsent (e : Expr) : e.bare.isAbsent = e.isAbsent := by
  cases e with
  | absent => rfl
  | node h type value body list => rfl

end Expr

namespace Grammar

structure Tree where
  kind : ExprKind
  name : Bytes := []
  type : Expr := .absent
  value : Expr := .absent
  body : Expr := .absent
  list : List Expr := []

def Tree.expr (t : Tree) : Expr :=
  .node { kind := t.kind, span := {}, name := t.name } t.type t.value t.body t.list

inductive Operator where
  | call (args : List Expr)
  | member (name : Bytes)

def Operator.apply (e : Expr) : Operator → Expr
  | call args => Tree.expr { kind := .call, value := e, list := args }
  | member name => Tree.expr { kind := .member, value := e, name }

/-- The kind of the first token; nothing is like the end of the file. -/
def nextKind : List Token → TokenKind
  | t :: _ => t.kind
  | [] => .endOfFile

@[simp] theorem nextKind_cons (t : Token) (w : List Token) : nextKind (t :: w) = t.kind := rfl

/-- Some tokens whose kinds satisfy `p` stand between the two points. -/
inductive Skips (p : TokenKind → Bool) : List Token → List Token → Prop
  | done {s : List Token} : Skips p s s
  | skip {t : Token} {s s' : List Token} (kind : p t.kind) (rest : Skips p s s') :
      Skips p (t :: s) s'

theorem Skips.unique {p : TokenKind → Bool} {s t u : List Token} (ht : Skips p s t)
    (hpt : p (nextKind t) = false) (hu : Skips p s u) (hpu : p (nextKind u) = false) : t = u := by
  induction ht with
  | done =>
    cases hu with
    | done => rfl
    | skip hkind _ => exact absurd hkind (by simpa [nextKind] using hpt)
  | skip hkind _ ih =>
    cases hu with
    | done => exact absurd hkind (by simpa [nextKind] using hpu)
    | skip _ hu => exact ih hpt hu

theorem Skips.nextKind_cases {p : TokenKind → Bool} {s t : List Token} (h : Skips p s t) :
    p (nextKind s) = true ∨ s = t := by
  cases h with
  | done => exact .inr rfl
  | skip hkind _ => exact .inl hkind

mutual

inductive Expression (greedy : Prop) : List Token → Expr → List Token → Prop
  | operand {s s' : List Token} {e : Expr} {dangling : Bool}
      (hoperand : Operand greedy s e dangling s') : Expression greedy s e s'
  | constant {s t s' : List Token} {name first second : Token} {type value : Expr}
      (hname : name.kind = .ident) (hfirst : first.kind = .colon)
      (htype : Ascription greedy s type (second :: t)) (hsecond : second.kind = .colon)
      (hvalue : Expression greedy t value s') :
      Expression greedy (name :: first :: s)
        (Tree.expr { kind := .constant, name := name.text, type, value }) s'
  | declaration {s t s' : List Token} {name first equals : Token} {type value : Expr}
      (hname : name.kind = .ident) (hfirst : first.kind = .colon)
      (htype : Ascription greedy s type (equals :: t)) (hequals : equals.kind = .assign)
      (hvalue : Expression greedy t value s') :
      Expression greedy (name :: first :: s)
        (Tree.expr { kind := .declaration, name := name.text, type, value }) s'
  | typed {s s' : List Token} {name first : Token} {type : Expr} {dangling : Bool}
      (hname : name.kind = .ident) (hfirst : first.kind = .colon)
      (htype : Operand greedy s type dangling s') :
      Expression greedy (name :: first :: s)
        (Tree.expr { kind := .declaration, name := name.text, type }) s'

inductive Ascription (greedy : Prop) : List Token → Expr → List Token → Prop
  | none {s : List Token} : Ascription greedy s .absent s
  | some {s s' : List Token} {e : Expr} {dangling : Bool}
      (hoperand : Operand greedy s e dangling s') : Ascription greedy s e s'

/-- An operand dangles if it ends with the return type of a procedure type, so that operators and a
block behind it could belong to that type. -/
inductive Operand (greedy : Prop) : List Token → Expr → Bool → List Token → Prop
  | slice {s s' : List Token} {opening closing : Token} {elem : Expr} {dangling : Bool}
      (hopening : opening.kind = .lbracket) (hclosing : closing.kind = .rbracket)
      (helem : Operand greedy s elem dangling s') :
      Operand greedy (opening :: closing :: s)
        (Tree.expr { kind := .sliceType, type := elem }) dangling s'
  | multipointer {s s' : List Token} {opening mark closing : Token} {elem : Expr} {dangling : Bool}
      (hopening : opening.kind = .lbracket) (hmark : mark.kind = .caret)
      (hclosing : closing.kind = .rbracket) (helem : Operand greedy s elem dangling s') :
      Operand greedy (opening :: mark :: closing :: s)
        (Tree.expr { kind := .multipointerType, type := elem }) dangling s'
  | array {s t s' : List Token} {opening closing : Token} {length elem : Expr}
      {inner dangling : Bool} (hopening : opening.kind = .lbracket)
      (hunmarked : nextKind s ≠ .caret) (hlength : Operand greedy s length inner (closing :: t))
      (hclosing : closing.kind = .rbracket) (helem : Operand greedy t elem dangling s') :
      Operand greedy (opening :: s)
        (Tree.expr { kind := .arrayType, type := elem, value := length }) dangling s'
  | pointer {s s' : List Token} {mark : Token} {elem : Expr} {dangling : Bool}
      (hmark : mark.kind = .caret) (helem : Operand greedy s elem dangling s') :
      Operand greedy (mark :: s) (Tree.expr { kind := .pointerType, type := elem }) dangling s'
  | applied {s t s' : List Token} {e : Expr} {dangling : Bool} {ops : List Operator}
      (hprimary : Primary greedy s e dangling t) (hops : Operators greedy t ops s')
      (hinnermost : greedy → dangling = true → ops = []) :
      Operand greedy s (ops.foldl Operator.apply e) (dangling && ops.isEmpty) s'

inductive Primary (greedy : Prop) : List Token → Expr → Bool → List Token → Prop
  | name {s : List Token} {name : Token} (hname : name.kind = .ident) :
      Primary greedy (name :: s) (Tree.expr { kind := .name, name := name.text }) false s
  | intLit {s : List Token} {literal : Token} (hliteral : literal.kind = .intLit) :
      Primary greedy (literal :: s) (Tree.expr { kind := .intLit, name := literal.text }) false s
  | block {s s' : List Token} {e : Expr} (hblock : Block greedy s e s') :
      Primary greedy s e false s'
  | paren {s s' : List Token} {e : Expr} (hargs : Arguments greedy s [e] s')
      (hother : e.kind ≠ .declaration) :
      Primary greedy s (Tree.expr { kind := .paren, value := e }) false s'
  | structType {s s' : List Token} {fields : List Expr} (hargs : Arguments greedy s fields s')
      (hsome : fields ≠ []) (hdeclared : ∀ e ∈ fields, e.kind = .declaration) :
      Primary greedy s (Tree.expr { kind := .structType, list := fields }) false s'
  | procedureType {s t s' : List Token} {params : List Expr} {arrow : Token} {type : Expr}
      {dangling : Bool} (hargs : Arguments greedy s params (arrow :: t))
      (hdeclared : ∀ e ∈ params, e.kind = .declaration) (harrow : arrow.kind = .arrow)
      (htype : Operand greedy t type dangling s') :
      Primary greedy s (Tree.expr { kind := .procedureType, type, list := params }) true s'
  | procedure {s t u s' : List Token} {params : List Expr} {arrow : Token} {type body : Expr}
      {dangling : Bool} (hargs : Arguments greedy s params (arrow :: t))
      (hdeclared : ∀ e ∈ params, e.kind = .declaration) (harrow : arrow.kind = .arrow)
      (htype : Operand greedy t type dangling u) (hbody : Block greedy u body s')
      (hinnermost : greedy → dangling = false) :
      Primary greedy s (Tree.expr { kind := .procedure, type, body, list := params }) false s'

inductive Operators (greedy : Prop) : List Token → List Operator → List Token → Prop
  | nil {s : List Token} : Operators greedy s [] s
  | call {s t s' : List Token} {args : List Expr} {ops : List Operator}
      (hargs : Arguments greedy s args t) (hrest : Operators greedy t ops s') :
      Operators greedy s (.call args :: ops) s'
  | member {s s' : List Token} {dot name : Token} {ops : List Operator} (hdot : dot.kind = .dot)
      (hname : name.kind = .ident) (hrest : Operators greedy s ops s') :
      Operators greedy (dot :: name :: s) (.member name.text :: ops) s'

inductive Block (greedy : Prop) : List Token → Expr → List Token → Prop
  | mk {s s' : List Token} {opening closing : Token} {list : List Expr}
      (hopening : opening.kind = .lbrace) (hlist : Sequence greedy s list (closing :: s'))
      (hclosing : closing.kind = .rbrace) :
      Block greedy (opening :: s) (Tree.expr { kind := .block, list }) s'

inductive Arguments (greedy : Prop) : List Token → List Expr → List Token → Prop
  | mk {s t s' : List Token} {opening closing : Token} {list : List Expr}
      (hopening : opening.kind = .lparen) (hnewlines : Skips Syntax.isNewline s t)
      (hlist : Entries greedy t list (closing :: s')) (hclosing : closing.kind = .rparen) :
      Arguments greedy (opening :: s) list s'

inductive Entries (greedy : Prop) : List Token → List Expr → List Token → Prop
  | none {s : List Token} : Entries greedy s [] s
  | last {s t s' : List Token} {e : Expr} (hfirst : Expression greedy s e t)
      (hnewlines : Skips Syntax.isNewline t s') : Entries greedy s [e] s'
  | more {s t u v s' : List Token} {e : Expr} {es : List Expr} {comma : Token}
      (hfirst : Expression greedy s e t) (hbefore : Skips Syntax.isNewline t (comma :: u))
      (hcomma : comma.kind = .comma) (hafter : Skips Syntax.isNewline u v)
      (hrest : Entries greedy v es s') : Entries greedy s (e :: es) s'

/-- Expressions with separators between them and around them. -/
inductive Sequence (greedy : Prop) : List Token → List Expr → List Token → Prop
  | empty {s s' : List Token} (hseps : Skips TokenKind.isSeparator s s') : Sequence greedy s [] s'
  | cons {s t u s' : List Token} {e : Expr} {es : List Expr}
      (hseps : Skips TokenKind.isSeparator s t) (hfirst : Expression greedy t e u)
      (hrest : Rest greedy u es s') : Sequence greedy s (e :: es) s'

inductive Rest (greedy : Prop) : List Token → List Expr → List Token → Prop
  | nil {s : List Token} : Rest greedy s [] s
  | separated {s s' : List Token} {sep : Token} {es : List Expr}
      (hsep : sep.kind.isSeparator) (hlist : Sequence greedy s es s') :
      Rest greedy (sep :: s) es s'

end

section

variable {greedy : Prop} {s s' : List Token}

def startsOperand (k : TokenKind) : Bool :=
  [.ident, .intLit, .lparen, .lbrace, .lbracket, .caret].contains k

theorem ne_of_starts {k k' : TokenKind} (h : startsOperand k) (hk' : startsOperand k' = false) :
    k ≠ k' := by
  rintro rfl
  rw [h] at hk'
  cases hk'

theorem isSeparator_of_starts {k : TokenKind} (h : startsOperand k) : k.isSeparator = false := by
  have hnewline : k ≠ .newline := ne_of_starts h rfl
  have hsemicolon : k ≠ .semicolon := ne_of_starts h rfl
  simp [TokenKind.isSeparator, hnewline, hsemicolon]

theorem Arguments.starts {list : List Expr} (h : Arguments greedy s list s') :
    nextKind s = .lparen := by
  cases h with
  | mk hopening _ _ _ => exact hopening

theorem Block.starts {e : Expr} (h : Block greedy s e s') : nextKind s = .lbrace := by
  cases h with
  | mk hopening _ _ => exact hopening

theorem Primary.starts {e : Expr} {dangling : Bool} (h : Primary greedy s e dangling s') :
    nextKind s ∈ [.ident, .intLit, .lparen, .lbrace] := by
  cases h with
  | name hname => simp [hname]
  | intLit hliteral => simp [hliteral]
  | block hblock => simp [hblock.starts]
  | paren hargs _ => simp [hargs.starts]
  | structType hargs _ _ => simp [hargs.starts]
  | procedureType hargs _ _ _ => simp [hargs.starts]
  | procedure hargs _ _ _ _ _ => simp [hargs.starts]

/-- Among the primary operands only names start with a name. -/
theorem Primary.eq_name {e : Expr} {dangling : Bool} (h : Primary greedy s e dangling s')
    (hident : nextKind s = .ident) :
    ∃ name, name.kind = .ident ∧ s = name :: s' ∧
      e = Tree.expr { kind := .name, name := name.text } ∧ dangling = false := by
  cases h with
  | name hname => exact ⟨_, hname, rfl, rfl, rfl⟩
  | intLit hliteral => simp [hliteral] at hident
  | block hblock => simp [hblock.starts] at hident
  | paren hargs _ => simp [hargs.starts] at hident
  | structType hargs _ _ => simp [hargs.starts] at hident
  | procedureType hargs _ _ _ => simp [hargs.starts] at hident
  | procedure hargs _ _ _ _ _ => simp [hargs.starts] at hident

theorem Operand.starts {e : Expr} {dangling : Bool} (h : Operand greedy s e dangling s') :
    startsOperand (nextKind s) := by
  cases h with
  | slice hopening _ _ => simp [hopening, startsOperand]
  | multipointer hopening _ _ _ => simp [hopening, startsOperand]
  | array hopening _ _ _ _ => simp [hopening, startsOperand]
  | pointer hmark _ => simp [hmark, startsOperand]
  | applied hprimary _ _ =>
    have hkind := hprimary.starts
    simp only [List.mem_cons, List.not_mem_nil, or_false] at hkind
    obtain hk | hk | hk | hk := hkind
    all_goals simp [hk, startsOperand]

theorem Expression.starts {e : Expr} (h : Expression greedy s e s') :
    startsOperand (nextKind s) := by
  cases h with
  | operand hoperand => exact hoperand.starts
  | constant hname _ _ _ _ => simp [hname, startsOperand]
  | declaration hname _ _ _ _ => simp [hname, startsOperand]
  | typed hname _ _ => simp [hname, startsOperand]

theorem Operators.eq_nil {ops : List Operator} (h : Operators greedy s ops s')
    (hlparen : nextKind s ≠ .lparen) (hdot : nextKind s ≠ .dot) : ops = [] := by
  cases h with
  | nil => rfl
  | call hargs _ => exact absurd hargs.starts hlparen
  | member hkind _ _ => exact absurd hkind hdot

theorem Operators.nextKind_ne {ops : List Operator} {k : TokenKind}
    (h : Operators greedy s ops s') (hk : k ≠ .lparen ∧ k ≠ .dot) (hs' : nextKind s' ≠ k) :
    nextKind s ≠ k := by
  cases h with
  | nil => exact hs'
  | call hargs _ => exact hargs.starts ▸ hk.1.symm
  | member hdot _ _ => simpa [hdot] using hk.2.symm

theorem Operators.eq_of_nil {ops : List Operator} (h : Operators greedy s ops s')
    (hops : ops = []) : s = s' := by
  cases h with
  | nil => rfl
  | call _ _ => cases hops
  | member _ _ _ => cases hops

theorem Entries.nextKind_cases {list : List Expr} (h : Entries greedy s list s') :
    startsOperand (nextKind s) ∨ s = s' := by
  cases h with
  | none => exact .inr rfl
  | last hfirst _ => exact .inl hfirst.starts
  | more hfirst _ _ _ _ => exact .inl hfirst.starts

theorem Sequence.nextKind_cases {list : List Expr} (h : Sequence greedy s list s') :
    (nextKind s).isSeparator ∨ startsOperand (nextKind s) ∨ nextKind s = nextKind s' := by
  cases h with
  | empty hseps =>
    obtain hskip | rfl := hseps.nextKind_cases
    · exact .inl hskip
    · exact .inr (.inr rfl)
  | cons hseps hfirst _ =>
    obtain hskip | rfl := hseps.nextKind_cases
    · exact .inl hskip
    · exact .inr (.inl hfirst.starts)

theorem Sequence.eq_nil {list : List Expr} (h : Sequence greedy s list s')
    (hsep : (nextKind s).isSeparator = false) (hstart : startsOperand (nextKind s) = false) :
    list = [] ∧ s = s' := by
  cases h with
  | empty hseps =>
    obtain hskip | rfl := hseps.nextKind_cases
    · exact absurd hskip (by simp [hsep])
    · exact ⟨rfl, rfl⟩
  | cons hseps hfirst _ =>
    obtain hskip | rfl := hseps.nextKind_cases
    · exact absurd hskip (by simp [hsep])
    · exact absurd hfirst.starts (by simp [hstart])

end

/-- The tokens before the end of the file form a sequence. -/
def File (greedy : Prop) (tokens : List Token) (items : List Expr) : Prop :=
  ∃ last, last.kind = .endOfFile ∧ Sequence greedy tokens items [last]

end Grammar

end Keywordless
