import Keywordless.Proofs.MovedStreams
import Keywordless.Proofs.ParserSound

/-!
# Parses of moved tokens

Each step of the descent does to a stream what it does to another one whose tokens stand elsewhere.
Where the first text ends before the second one does, a step that is not between brackets or braces
ends there in both of them: a newline and the end of a file close an operand alike. Between brackets
or braces the first parse fails there, and nothing is said of the second one.
-/

namespace Keywordless

open Grammar (nextKind)

/-! ### Trees that are there -/

namespace Grammar

variable {greedy : Prop} {s s' : List Token} {e : Expr}

private theorem Primary.present {dangling : Bool} (h : Primary greedy s e dangling s') :
    e.isAbsent = false := by
  cases h with
  | block hblock =>
    cases hblock
    rfl
  | name | intLit | paren | structType | procedureType | procedure => rfl

private theorem foldl_apply_present {ops : List Operator} (h : e.isAbsent = false) :
    (ops.foldl Operator.apply e).isAbsent = false := by
  induction ops generalizing e with
  | nil => exact h
  | cons op ops ih =>
    apply ih
    cases op <;> rfl

private theorem Operand.present {dangling : Bool} (h : Operand greedy s e dangling s') :
    e.isAbsent = false := by
  cases h with
  | applied hprimary _ _ => exact foldl_apply_present hprimary.present
  | slice | multipointer | array | pointer => rfl

private theorem Expression.present (h : Expression greedy s e s') : e.isAbsent = false := by
  cases h with
  | operand hoperand => exact hoperand.present
  | constant | declaration | typed => rfl

private theorem Entries.present {list : List Expr} (h : Entries greedy s list s') :
    ∀ e ∈ list, e.isAbsent = false := by
  induction list generalizing s with
  | nil => simp
  | cons e rest ih =>
    cases h with
    | last hfirst _ => simpa using hfirst.present
    | more hfirst _ _ _ hrest => exact List.forall_mem_cons.mpr ⟨hfirst.present, ih hrest⟩

end Grammar

namespace Syntax

open TokenStream (look_size building_size)

variable {m : Relocation}

private theorem primary_present {s : TokenStream} {r : Step s.size Expr}
    (h : (primary s).outcome = .ok r) : r.value.isAbsent = false := by
  obtain ⟨_, hprimary, -⟩ := primary_sound True s h
  simpa using hprimary.present

private theorem argumentEntries_present {s : TokenStream} {r : Step (s.size + 1) (List Expr)}
    (h : (argumentEntries s).outcome = .ok r) : ∀ e ∈ r.value, e.isAbsent = false := by
  have hpresent := (argumentEntries_sound True s h).present
  simpa using hpresent

private theorem expr_ended {s : TokenStream} (h : nextKind s.rest = .endOfFile) :
    ∃ stopped, (expr s).outcome = .error stopped := by
  cases hr : (expr s).outcome with
  | error stopped => exact ⟨stopped, rfl⟩
  | ok r =>
    have hstarts := (expr_sound True s hr).starts
    rw [h] at hstarts
    cases hstarts

private theorem argumentEntries_ended {s : TokenStream} (h : nextKind s.rest = .endOfFile) :
    ∃ stopped, (argumentEntries s).outcome = .error stopped := by
  obtain ⟨stopped, hstopped⟩ := expr_ended (s := s.look) (by rwa [TokenStream.look_rest])
  refine ⟨stopped, ?_⟩
  rw [argumentEntries, Run.outcome_entering, TokenStream.look_kind, TokenStream.kind_eq, h,
    if_neg (by decide), Run.outcome_bind, hstopped]
  rfl

private theorem built_name {s s' : TokenStream} {t t' : Token} (hlike : m.Like t t')
    (hmade : s'.made = s.made + m.earlier) :
    s'.built { kind := .name, span := t'.span, nameSpan := t'.span, name := t'.text } =
      m.expr (s.built { kind := .name, span := t.span, nameSpan := t.span, name := t.text }) := by
  apply built_moved hmade
  simp [Relocation.draft, hlike.span, hlike.text, ExprKind.isNamed]

mutual

private theorem expr_follows (s s' : TokenStream)
    (h : m.Tracks (nextKind s.rest = .endOfFile) s s') :
    m.Follows (m.Steps m.expr) (expr s).outcome (expr s').outcome := by
  rw [expr.eq_def s, expr.eq_def s', Run.outcome_entering, Run.outcome_entering]
  rcases h.look.take .ident (by decide) with
    ⟨hnone, hnone'⟩ | ⟨name, name', hsome, hsome', hlike, hnext⟩
  · rw [hnone, hnone']
    exact operand_follows s s' h
  · have hlt : name.next.size < s.size := by simpa using name.shorter
    rw [hsome, hsome']
    dsimp only
    rw [hnext.look.kind_beq (by decide)]
    split
    · refine .bind (binding_follows name.next.look name'.next.look hlike hnext.look) ?_
      exact fun _ _ _ hr => ⟨hr.value, hr.next⟩
    · refine .bind (postfixes_follows name.next.look.building name'.next.look.building hlike.span
        (built_name hlike hnext.look.made) hnext.look.building) ?_
      exact fun _ _ _ hr => ⟨hr.value, hr.next⟩
termination_by 8 * s.size + 3
decreasing_by all_goals (try simp only [look_size, building_size]); omega

private theorem operand_follows (s s' : TokenStream)
    (h : m.Tracks (nextKind s.rest = .endOfFile) s s') :
    m.Follows (m.Steps m.expr) (operand s).outcome (operand s').outcome := by
  rw [operand.eq_def s, operand.eq_def s', Run.outcome_entering, Run.outcome_entering]
  rcases h.look.take .lbracket (by decide) with
    ⟨hnone, hnone'⟩ | ⟨opening, opening', hsome, hsome', hlike, hnext⟩
  · rw [hnone, hnone']
    rcases h.look.take .caret (by decide) with
      ⟨hnone, hnone'⟩ | ⟨caret, caret', hsome, hsome', hlike, hnext⟩
    · rw [hnone, hnone']
      rcases h.look.take .ident (by decide) with
        ⟨hnone, hnone'⟩ | ⟨name, name', hsome, hsome', hlike, hnext⟩
      · rw [hnone, hnone']
        refine .bind (primary_follows s s' h) ?_
        intro first first' hrun hfirst
        have hlt := first.shorter
        have hspan : first'.value.span = first.value.span.moved m.place := by
          rw [hfirst.value, Expr.moved_span (primary_present hrun)]
        refine .bind (postfixes_follows first.next first'.next hspan hfirst.value hfirst.next) ?_
        exact fun _ _ _ hr => ⟨hr.value, hr.next⟩
      · have hlt : name.next.size < s.size := by simpa using name.shorter
        rw [hsome, hsome']
        refine .bind (postfixes_follows name.next.building name'.next.building hlike.span
          (built_name hlike hnext.made) hnext.building) ?_
        exact fun _ _ _ hr => ⟨hr.value, hr.next⟩
    · have hlt : caret.next.size < s.size := by simpa using caret.shorter
      rw [hsome, hsome']
      refine .bind (operand_follows caret.next caret'.next (hnext.imp fun _ => trivial)) ?_
      intro elem elem' _ helem
      apply finish_steps helem.next
      simp [Relocation.draft, ExprKind.isNamed, Span.moved_cover m.inOrder, hlike.span, helem.value,
        helem.next.lastSpan]
  · have hlt : opening.next.size < s.size := by simpa using opening.shorter
    rw [hsome, hsome']
    refine .bind (bracketType_follows opening.next opening'.next hlike.span hnext) ?_
    exact fun _ _ _ hr => ⟨hr.value, hr.next⟩
termination_by 8 * s.size + 2
decreasing_by all_goals (try simp only [building_size]); omega

private theorem ascription_follows (s s' : TokenStream) (h : m.Tracks True s s') :
    m.Follows (m.Steps m.expr) (ascription s).outcome (ascription s').outcome := by
  rw [ascription.eq_def s, ascription.eq_def s', Run.outcome_entering, Run.outcome_entering,
    h.look.kind_beq (by decide), h.look.kind_beq (by decide)]
  split
  · exact ⟨rfl, h.look⟩
  · refine .bind (operand_follows s.look s'.look (h.look.imp fun _ => trivial)) ?_
    exact fun _ _ _ hr => ⟨hr.value, hr.next⟩
termination_by 8 * s.size + 3
decreasing_by all_goals (try simp only [look_size]); omega

private theorem binding_follows {name name' : Token} (s s' : TokenStream)
    (hname : m.Like name name') (h : m.Tracks True s s') :
    m.Follows (m.Steps m.expr) (binding name s).outcome (binding name' s').outcome := by
  rw [binding.eq_def name s, binding.eq_def name' s', Run.outcome_entering, Run.outcome_entering]
  rcases h.take .colon (by decide) with
    ⟨hnone, hnone'⟩ | ⟨colon, colon', hsome, hsome', -, hnext⟩
  · rw [hnone, hnone']
    exact .error fun _ => h.halts
  · have hlt := colon.shorter
    rw [hsome, hsome']
    refine .bind (ascription_follows colon.next colon'.next hnext) ?_
    intro typed typed' _ htyped
    have hlt' := typed.shorter
    dsimp only
    rcases htyped.next.look.take .colon (by decide) with
      ⟨hnone, hnone'⟩ | ⟨second, second', hsome, hsome', -, hsecond⟩
    · rw [hnone, hnone']
      rcases htyped.next.look.take .assign (by decide) with
        ⟨hnone, hnone'⟩ | ⟨equals, equals', hsome, hsome', -, hequals⟩
      · rw [hnone, hnone']
        apply finish_steps htyped.next.look
        simp [Relocation.draft, ExprKind.isNamed, Span.moved_cover m.inOrder, hname.span,
          hname.text, htyped.value, htyped.next.look.lastSpan]
      · have hlt'' : equals.next.size < typed.next.size := by simpa using equals.shorter
        rw [hsome, hsome']
        refine .bind (expr_follows equals.next equals'.next (hequals.imp fun _ => trivial)) ?_
        intro value value' _ hvalue
        apply finish_steps hvalue.next
        simp [Relocation.draft, ExprKind.isNamed, Span.moved_cover m.inOrder, hname.span,
          hname.text, htyped.value, hvalue.value, hvalue.next.lastSpan]
    · have hlt'' : second.next.size < typed.next.size := by simpa using second.shorter
      rw [hsome, hsome']
      refine .bind (expr_follows second.next second'.next (hsecond.imp fun _ => trivial)) ?_
      intro value value' _ hvalue
      apply finish_steps hvalue.next
      simp [Relocation.draft, ExprKind.isNamed, Span.moved_cover m.inOrder, hname.span, hname.text,
        htyped.value, hvalue.value, hvalue.next.lastSpan]
termination_by 8 * s.size
decreasing_by all_goals omega

private theorem primary_follows (s s' : TokenStream)
    (h : m.Tracks (nextKind s.rest = .endOfFile) s s') :
    m.Follows (m.Steps m.expr) (primary s).outcome (primary s').outcome := by
  rw [primary.eq_def s, primary.eq_def s', Run.outcome_entering, Run.outcome_entering]
  rcases h.look.take .intLit (by decide) with
    ⟨hnone, hnone'⟩ | ⟨literal, literal', hsome, hsome', hlike, hnext⟩
  · rw [hnone, hnone']
    rcases h.look.take .lparen (by decide) with
      ⟨hnone, hnone'⟩ | ⟨opening, opening', hsome, hsome', hlike, hnext⟩
    · rw [hnone, hnone']
      rcases h.look.take .lbrace (by decide) with
        ⟨hnone, hnone'⟩ | ⟨opening, opening', hsome, hsome', hlike, hnext⟩
      · rw [hnone, hnone']
        exact .error fun hwhole => h.unexpected hwhole _
      · have hlt : opening.next.size < s.size := by simpa using opening.shorter
        rw [hsome, hsome']
        refine .bind (block_follows opening.next opening'.next hlike.span hnext) ?_
        exact fun _ _ _ hr => ⟨hr.value, hr.next⟩
    · have hlt : opening.next.size < s.size := by simpa using opening.shorter
      rw [hsome, hsome']
      refine .bind (parenthesised_follows opening.next opening'.next hlike.span hnext) ?_
      exact fun _ _ _ hr => ⟨hr.value, hr.next⟩
  · rw [hsome, hsome']
    apply finish_steps hnext
    simp [Relocation.draft, ExprKind.isNamed, hlike.span, hlike.text]
termination_by 8 * s.size + 1
decreasing_by all_goals omega

private theorem postfixes_follows {start start' : Span} {e e' : Expr} (s s' : TokenStream)
    (hstart : start' = start.moved m.place) (he : e' = m.expr e) (h : m.Tracks True s s') :
    m.Follows (m.Steps m.expr) (postfixes start e s).outcome (postfixes start' e' s').outcome := by
  rw [postfixes.eq_def start e s, postfixes.eq_def start' e' s', Run.outcome_entering,
    Run.outcome_entering]
  rcases h.look.take .lparen (by decide) with
    ⟨hnone, hnone'⟩ | ⟨opening, opening', hsome, hsome', -, hnext⟩
  · rw [hnone, hnone']
    rcases h.look.take .dot (by decide) with
      ⟨hnone, hnone'⟩ | ⟨dot, dot', hsome, hsome', -, hnext⟩
    · rw [hnone, hnone']
      exact ⟨he, h.look⟩
    · have hlt : dot.next.size < s.size := by simpa using dot.shorter
      rw [hsome, hsome']
      refine .bind (expect_follows hnext (by decide) .identifier) ?_
      intro member member' _ ⟨hlike, hmember⟩
      have hlt' : member.next.size < dot.next.size := by simpa using member.shorter
      dsimp only
      refine .bind (postfixes_follows member.next.building member'.next.building hstart
        (built_moved hmember.made ?_) hmember.building) ?_
      · simp [Relocation.draft, ExprKind.isNamed, Span.moved_cover m.inOrder, hstart, he,
          hlike.span, hlike.text, hmember.lastSpan]
      · exact fun _ _ _ hr => ⟨hr.value, hr.next⟩
  · have hlt : opening.next.size < s.size := by simpa using opening.shorter
    rw [hsome, hsome']
    refine .bind (arguments_follows opening.next opening'.next hnext) ?_
    intro args args' _ ⟨hargs, _⟩
    have hlt' := args.shorter
    dsimp only
    refine .bind (postfixes_follows args.next.building args'.next.building hstart
      (built_moved hargs.next.made ?_) hargs.next.building) ?_
    · simp [Relocation.draft, ExprKind.isNamed, Span.moved_cover m.inOrder, hstart, he, hargs.value,
        hargs.next.lastSpan]
    · exact fun _ _ _ hr => ⟨hr.value, hr.next⟩
termination_by 8 * s.size
decreasing_by all_goals (try simp only [building_size]); omega

private theorem arguments_follows (s s' : TokenStream) (h : m.Tracks True s s') :
    m.Follows (fun r r' => m.Steps (List.map m.expr) r r' ∧ ∀ e ∈ r.value, e.isAbsent = false)
      (arguments s).outcome (arguments s').outcome := by
  rw [arguments.eq_def s, arguments.eq_def s', Run.outcome_entering, Run.outcome_entering]
  have hle := (s.skip isNewline).2
  dsimp only
  rcases h.skip (p := isNewline) rfl rfl with hskip | ⟨_, hpast, -⟩
  · by_cases hkept : m.after ≠ none → ∀ r, (argumentEntries (s.skip isNewline).1).outcome = .ok r →
        nextKind r.next.rest ≠ .endOfFile
    · refine .bind
        (argumentEntries_follows (s.skip isNewline).1 (s'.skip isNewline).1 hskip hkept) ?_
      intro entries entries' hrun hentries
      refine .bind (expect_follows hentries.next (by decide) _) ?_
      intro closing closing' _ ⟨_, hclosing⟩
      exact ⟨⟨hentries.value, hclosing⟩, argumentEntries_present hrun⟩
    · -- The entries end with the text, so that the closing parenthesis is missing.
      simp only [not_forall, not_not] at hkept
      obtain ⟨hseam, r, hrun, hend⟩ := hkept
      rw [Run.outcome_bind, Run.outcome_after, hrun, Outcome.ok_bind, Run.outcome_bind,
        expect_ended hend (by decide)]
      exact .of_error hseam
  · obtain ⟨stopped, hstopped⟩ := argumentEntries_ended hpast.ended
    rw [Run.outcome_bind, Run.outcome_after, hstopped]
    exact .of_error (by simp [hpast.after])
termination_by 8 * s.size + 5
decreasing_by all_goals omega

/-- Entries behind which the first text ends say nothing about the second one, which may go on with
a comma. -/
theorem argumentEntries_follows (s s' : TokenStream) (h : m.Tracks True s s')
    (hkept : m.after ≠ none → ∀ r, (argumentEntries s).outcome = .ok r →
      nextKind r.next.rest ≠ .endOfFile) :
    m.Follows (m.Steps (List.map m.expr)) (argumentEntries s).outcome
      (argumentEntries s').outcome := by
  rw [argumentEntries.eq_def s, Run.outcome_entering] at hkept
  rw [argumentEntries.eq_def s, argumentEntries.eq_def s', Run.outcome_entering,
    Run.outcome_entering, h.look.kind_beq (by decide)]
  split
  · exact ⟨rfl, h.look⟩
  · next hopen =>
    rw [if_neg hopen] at hkept
    refine .bind (expr_follows s.look s'.look (h.look.imp fun _ => trivial)) ?_
    intro first first' hrun hfirst
    have hlt : first.next.size < s.size := by simpa using first.shorter
    have hle := (first.next.skip isNewline).2
    rw [Run.outcome_bind, hrun, Outcome.ok_bind] at hkept
    dsimp only at hkept ⊢
    rcases hfirst.next.skip (p := isNewline) rfl rfl with hskip | ⟨_, hpast, -⟩
    · rcases hskip.take .comma (by decide) with
        ⟨hnone, hnone'⟩ | ⟨comma, comma', hsome, hsome', -, hnext⟩
      · rw [hnone, hnone']
        exact ⟨by simp [hfirst.value], hskip⟩
      · have hlt' := comma.shorter
        have hle' := (comma.next.skip isNewline).2
        rw [hsome] at hkept
        rw [hsome, hsome']
        dsimp only at hkept ⊢
        rcases hnext.skip (p := isNewline) rfl rfl with hskip | ⟨_, hpast, -⟩
        · refine .bind (argumentEntries_follows (comma.next.skip isNewline).1
            (comma'.next.skip isNewline).1 hskip ?_) ?_
          · intro hseam others hothers
            rw [Run.outcome_bind, Run.outcome_after, Run.outcome_again, hothers,
              Outcome.ok_bind] at hkept
            exact hkept hseam _ rfl
          · intro others others' _ hothers
            exact ⟨by simp [hfirst.value, hothers.value], hothers.next⟩
        · obtain ⟨stopped, hstopped⟩ := argumentEntries_ended hpast.ended
          rw [Run.outcome_bind, Run.outcome_after, Run.outcome_again, hstopped]
          exact .of_error (by simp [hpast.after])
    · have hnone : (first.next.skip isNewline).1.take? .comma = none :=
        TokenStream.take?_eq_none (by simp [hpast.ended])
      rw [hnone] at hkept
      exact absurd hpast.ended (hkept (by simp [hpast.after]) _ rfl)
termination_by 8 * s.size + 4
decreasing_by all_goals (try simp only [look_size]); omega

private theorem parenthesised_follows {start start' : Span} (s s' : TokenStream)
    (hstart : start' = start.moved m.place) (h : m.Tracks True s s') :
    m.Follows (m.Steps m.expr) (parenthesised start s).outcome
      (parenthesised start' s').outcome := by
  rw [parenthesised.eq_def start s, parenthesised.eq_def start' s', Run.outcome_entering,
    Run.outcome_entering]
  refine .bind (arguments_follows s s' h) ?_
  intro args args' _ ⟨hargs, hpresent⟩
  have hlt := args.shorter
  dsimp only
  rcases hargs.next.look.take .arrow (by decide) with
    ⟨hnone, hnone'⟩ | ⟨arrow, arrow', hsome, hsome', -, harrow⟩
  · rw [hnone, hnone']
    have hspan : start'.cover args'.next.lastSpan =
        (start.cover args.next.lastSpan).moved m.place := by
      rw [Span.moved_cover m.inOrder, hstart, hargs.next.lastSpan trivial]
    dsimp only
    simp only [hargs.value]
    exact grouped_follows hargs.next.look hspan hpresent
  · have hlt' : arrow.next.size < args.next.size := by simpa using arrow.shorter
    rw [hsome, hsome']
    dsimp only
    rw [hargs.value]
    refine .bind (requireDeclarations_follows harrow _ hpresent) ?_
    intro _ _ _ _
    refine .bind (operand_follows arrow.next arrow'.next (harrow.imp fun _ => trivial)) ?_
    intro ret ret' _ hret
    have hlt'' := ret.shorter
    rcases hret.next.look.take .lbrace (by decide) with
      ⟨hnone, hnone'⟩ | ⟨opening, opening', hsome, hsome', hlike, hopening⟩
    · rw [hnone, hnone']
      apply finish_steps hret.next.look
      simp [Relocation.draft, ExprKind.isNamed, Span.moved_cover m.inOrder, hstart, hret.value,
        hret.next.look.lastSpan]
    · have hlt₃ : opening.next.size < ret.next.size := by simpa using opening.shorter
      rw [hsome, hsome']
      refine .bind (block_follows opening.next opening'.next hlike.span hopening) ?_
      intro body body' _ hbody
      apply finish_steps hbody.next
      simp [Relocation.draft, ExprKind.isNamed, Span.moved_cover m.inOrder, hstart, hret.value,
        hbody.value, hbody.next.lastSpan]
termination_by 8 * s.size + 6
decreasing_by all_goals omega

private theorem block_follows {start start' : Span} (s s' : TokenStream)
    (hstart : start' = start.moved m.place) (h : m.Tracks True s s') :
    m.Follows (m.Steps m.expr) (block start s).outcome (block start' s').outcome := by
  rw [block.eq_def start s, block.eq_def start' s', Run.outcome_entering, Run.outcome_entering]
  refine .bind (blockEntries_follows s s' h) ?_
  intro entries entries' _ hentries
  apply finish_steps hentries.next
  simp [Relocation.draft, ExprKind.isNamed, Span.moved_cover m.inOrder, hstart, hentries.value,
    hentries.next.lastSpan]
termination_by 8 * s.size + 5
decreasing_by all_goals omega

private theorem blockEntries_follows (s s' : TokenStream) (h : m.Tracks True s s') :
    m.Follows (m.Steps (List.map m.expr)) (blockEntries s).outcome (blockEntries s').outcome := by
  rw [blockEntries.eq_def s, blockEntries.eq_def s', Run.outcome_entering, Run.outcome_entering]
  have hle := (s.skip TokenKind.isSeparator).2
  dsimp only
  rcases h.skip (p := TokenKind.isSeparator) rfl rfl with hskip | ⟨_, hpast, -⟩
  · rcases hskip.take .rbrace (by decide) with
      ⟨hnone, hnone'⟩ | ⟨closing, closing', hsome, hsome', -, hnext⟩
    · rw [hnone, hnone']
      refine .bind (expr_follows (s.skip TokenKind.isSeparator).1 (s'.skip TokenKind.isSeparator).1
        (hskip.imp fun _ => trivial)) ?_
      intro first first' _ hfirst
      have hlt := first.shorter
      refine .bind (endItem_follows hfirst.next) ?_
      intro u u' _ hu
      have hle' := u.2
      rcases hu with hu | hpast
      · rcases hu.look.kind_cases with hkind | ⟨hseam, hend, -⟩
        · rw [hkind]
          split
          case h_4 =>
            refine .bind (blockEntries_follows u.1.look u'.1.look hu.look) ?_
            intro others others' _ hothers
            exact ⟨by simp [hfirst.value, hothers.value], hothers.next⟩
          all_goals exact .error fun hwhole => (hu.look.imp fun _ => trivial).unexpected hwhole _
        · rw [hend]
          exact .of_error hseam
      · have hend : u.1.look.kind = .endOfFile := by
          rw [TokenStream.look_kind, TokenStream.kind_eq, hpast.ended]
        rw [hend]
        exact .of_error (by simp [hpast.after])
    · rw [hsome, hsome']
      exact ⟨rfl, hnext⟩
  · have hnone : (s.skip TokenKind.isSeparator).1.take? .rbrace = none :=
      TokenStream.take?_eq_none (by simp [hpast.ended])
    obtain ⟨stopped, hstopped⟩ := expr_ended hpast.ended
    rw [hnone, Run.outcome_bind, Run.outcome_after, hstopped]
    exact .of_error (by simp [hpast.after])
termination_by 8 * s.size + 4
decreasing_by all_goals (try simp only [look_size]); omega

private theorem bracketType_follows {start start' : Span} (s s' : TokenStream)
    (hstart : start' = start.moved m.place) (h : m.Tracks True s s') :
    m.Follows (m.Steps m.expr) (bracketType start s).outcome (bracketType start' s').outcome := by
  rw [bracketType.eq_def start s, bracketType.eq_def start' s', Run.outcome_entering,
    Run.outcome_entering]
  dsimp only
  rcases h.look.take .rbracket (by decide) with
    ⟨hnone, hnone'⟩ | ⟨closing, closing', hsome, hsome', -, hnext⟩
  · rw [hnone, hnone']
    rcases h.look.take .caret (by decide) with
      ⟨hnone, hnone'⟩ | ⟨caret, caret', hsome, hsome', -, hnext⟩
    · rw [hnone, hnone']
      refine .bind (operand_follows s.look s'.look (h.look.imp fun _ => trivial)) ?_
      intro length length' _ hlength
      have hlt : length.next.size < s.size := by simpa using length.shorter
      refine .bind (expect_follows hlength.next (by decide) _) ?_
      intro closing closing' _ ⟨_, hclosing⟩
      have hlt' : closing.next.size < length.next.size := by simpa using closing.shorter
      refine .bind (operand_follows closing.next closing'.next (hclosing.imp fun _ => trivial)) ?_
      intro elem elem' _ helem
      apply finish_steps helem.next
      simp [Relocation.draft, ExprKind.isNamed, Span.moved_cover m.inOrder, hstart, hlength.value,
        helem.value, helem.next.lastSpan]
    · have hlt : caret.next.size < s.size := by simpa using caret.shorter
      rw [hsome, hsome']
      refine .bind (expect_follows hnext (by decide) _) ?_
      intro closing closing' _ ⟨_, hclosing⟩
      have hlt' : closing.next.size < caret.next.size := by simpa using closing.shorter
      refine .bind (operand_follows closing.next closing'.next (hclosing.imp fun _ => trivial)) ?_
      intro elem elem' _ helem
      apply finish_steps helem.next
      simp [Relocation.draft, ExprKind.isNamed, Span.moved_cover m.inOrder, hstart, helem.value,
        helem.next.lastSpan]
  · have hlt : closing.next.size < s.size := by simpa using closing.shorter
    rw [hsome, hsome']
    refine .bind (operand_follows closing.next closing'.next (hnext.imp fun _ => trivial)) ?_
    intro elem elem' _ helem
    apply finish_steps helem.next
    simp [Relocation.draft, ExprKind.isNamed, Span.moved_cover m.inOrder, hstart, helem.value,
      helem.next.lastSpan]
termination_by 8 * s.size + 4
decreasing_by all_goals (try simp only [look_size]); omega

end

/-! ### Items -/

private theorem items_ended {s : TokenStream} (h : nextKind s.rest = .endOfFile) :
    (items s).items = [] ∧ (items s).last = s.look ∧ (items s).failed = false := by
  have hskip : (s.skip TokenKind.isSeparator).1 = s.look :=
    TokenStream.skip_of_stop (.inr (by rw [h]; rfl))
  rw [items]
  dsimp only
  rw [hskip, TokenStream.look_kind, TokenStream.kind_eq, h]
  exact ⟨rfl, rfl, rfl⟩

/-- Where items start, separators do not matter. -/
theorem items_congr {s s' : TokenStream}
    (h : (s.skip TokenKind.isSeparator).1 = (s'.skip TokenKind.isSeparator).1) :
    (items s).items = (items s').items ∧ (items s).last = (items s').last ∧
      (items s).failed = (items s').failed := by
  rw [items, items.eq_def s']
  dsimp only
  rw [h]
  split
  · exact ⟨rfl, rfl, rfl⟩
  · split
    · exact ⟨rfl, rfl, rfl⟩
    · split <;> exact ⟨rfl, rfl, rfl⟩

/-- What was found in the second text is what was found in the first one. -/
structure Moved (m : Relocation) (found found' : Items) : Prop where
  items : found'.items = found.items.map m.expr
  failed : found'.failed = found.failed
  halts : m.Halts found.last found'.last

theorem items_moved (hwhole : m.after = none) (s s' : TokenStream) (h : m.Tracks False s s') :
    Moved m (items s) (items s') := by
  have hle := (s.skip TokenKind.isSeparator).2
  have hpast {u u' : TokenStream} (hu : m.Past u u') : False := by
    have hafter := hu.after
    simp [hwhole] at hafter
  rcases h.skip (p := TokenKind.isSeparator) rfl rfl with hskip | ⟨_, hu, -⟩
  · have hkind :
        (s'.skip TokenKind.isSeparator).1.kind = (s.skip TokenKind.isSeparator).1.kind := by
      simp only [TokenStream.kind_eq]
      exact hskip.rest.nextKind_eq hwhole
    rw [items.eq_def s, items.eq_def s']
    dsimp only
    rw [hkind]
    split
    · exact ⟨rfl, rfl, hskip.halts⟩
    · next hopen =>
      rw [TokenStream.kind_eq, beq_iff_eq] at hopen
      rcases (expr_follows _ _ (hskip.imp hopen)).cases with
        ⟨first, first', hrun, hrun', hfirst⟩ | ⟨e, hrun, herror⟩
      · have hlt := first.shorter
        rw [hrun, hrun']
        dsimp only
        rcases (endItem_follows hfirst.next).cases with
          ⟨u, u', hend, hend', hu | hu⟩ | ⟨e, hend, herror⟩
        · have hle' := u.2
          have hrest := items_moved hwhole u.1 u'.1 (hu.imp False.elim)
          rw [hend, hend']
          exact ⟨by simp [hfirst.value, hrest.items], hrest.failed, hrest.halts⟩
        · exact (hpast hu).elim
        · obtain ⟨e', hend', hhalts⟩ := herror hwhole
          rw [hend, hend']
          exact ⟨by simp [hfirst.value], rfl, hhalts⟩
      · obtain ⟨e', hrun', hhalts⟩ := herror hwhole
        rw [hrun, hrun']
        exact ⟨rfl, rfl, hhalts⟩
  · exact (hpast hu).elim
termination_by s.size
decreasing_by omega

/-- The first text was parsed to its end, and `found'` holds its items and those that are found
behind the newline there. -/
def Continued (m : Relocation) (found found' : Items) : Prop :=
  ∃ u, m.Past found.last u ∧
    found'.items = found.items.map m.expr ++ (items u).items ∧
    found'.last = (items u).last ∧ found'.failed = (items u).failed

theorem items_continued {u : List Token} (hafter : m.after = some u) (s s' : TokenStream)
    (h : m.Tracks False s s') (hparsed : (items s).failed = false) :
    Continued m (items s) (items s') := by
  have hseam : m.after ≠ none := by simp [hafter]
  have hle := (s.skip TokenKind.isSeparator).2
  rcases h.skip (p := TokenKind.isSeparator) rfl rfl with hskip | ⟨v, hv, hsame⟩
  · have hnewline : nextKind (s'.skip TokenKind.isSeparator).1.rest ≠ .newline := by
      intro hnewline
      have hstop := (s'.skip_skips TokenKind.isSeparator).2 rfl
      rw [hnewline] at hstop
      cases hstop
    obtain ⟨hopen, hopen'⟩ := hskip.rest.nextKind_ne_endOfFile hseam hnewline
    rw [items.eq_def s] at hparsed
    rw [items.eq_def s, items.eq_def s']
    dsimp only at hparsed ⊢
    rw [if_neg (by simpa [TokenStream.kind_eq] using hopen)] at hparsed
    rw [if_neg (by simpa [TokenStream.kind_eq] using hopen),
      if_neg (by simpa [TokenStream.kind_eq] using hopen')]
    rcases (expr_follows _ _ (hskip.imp hopen)).cases with
      ⟨first, first', hrun, hrun', hfirst⟩ | ⟨e, hrun, -⟩
    · have hlt := first.shorter
      rw [hrun] at hparsed
      rw [hrun, hrun']
      dsimp only at hparsed ⊢
      rcases (endItem_follows hfirst.next).cases with
        ⟨v, v', hend, hend', hv | hv⟩ | ⟨e, hend, -⟩
      · have hle' := v.2
        rw [hend] at hparsed
        rw [hend, hend']
        obtain ⟨w, hw, hitems, hlast⟩ :=
          items_continued hafter v.1 v'.1 (hv.imp False.elim) hparsed
        exact ⟨w, hw, by simp [hitems, hfirst.value], hlast⟩
      · rw [hend, hend']
        obtain ⟨hitems, hlast, -⟩ := items_ended hv.ended
        refine ⟨v'.1, ?_, ?_, rfl, rfl⟩
        · dsimp only
          rw [hlast]
          exact hv.look
        · simp [hfirst.value, hitems]
      · rw [hend] at hparsed
        cases hparsed
    · rw [hrun] at hparsed
      cases hparsed
  · have hended : (s.skip TokenKind.isSeparator).1.kind == .endOfFile := by
      simp [TokenStream.kind_eq, hv.ended]
    obtain ⟨hitems, hlast⟩ := items_congr hsame
    rw [items.eq_def s]
    dsimp only
    rw [if_pos hended]
    exact ⟨v, hv, hitems, hlast⟩
termination_by s.size
decreasing_by omega

end Syntax

namespace SourceFile

open Syntax (items)

def stream (f : SourceFile) : TokenStream := { rest := f.tokens, lastSpan := { file := f.id } }

theorem parse_items (f : SourceFile) :
    f.parse.file.items = (items f.stream).items ∧ f.parse.failed = (items f.stream).failed ∧
      f.parse.made = (items f.stream).last.made ∧
      f.parse.reports = (items f.stream).last.reports := by
  obtain ⟨hitems, hlast, hfailed⟩ :=
    Syntax.items_congr (f.stream.skip_look TokenKind.isSeparator)
  rw [← hitems, ← hlast, ← hfailed]
  exact ⟨rfl, rfl, rfl, rfl⟩

end SourceFile

end Keywordless
