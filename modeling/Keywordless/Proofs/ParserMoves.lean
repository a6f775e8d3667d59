import Keywordless.Proofs.Outcome
import Keywordless.Proofs.StreamTokens

/-!
# What a parse does to its stream

A parse looks at the next token, takes tokens that it looked at, and counts the expressions that it
builds. It never takes an invalid token, nor the end of the file. A syntax error stops it in one of
three ways.
-/

namespace Keywordless

namespace TokenStream

@[simp] theorem look_looked (s : TokenStream) : s.look.looked = true := by
  unfold look
  split
  · assumption
  · rfl

theorem take?_next {s : TokenStream} {kind : TokenKind} {taken : Taken s}
    (h : s.take? kind = some taken) :
    taken.next = { s with
      rest := taken.next.rest, looked := false, lastSpan := taken.token.span } := by
  unfold take? at h
  split at h
  · split at h
    · obtain rfl := Option.some.inj h
      rfl
    · cases h
  · cases h

inductive Move : TokenStream → TokenStream → Prop
  | look (s : TokenStream) : Move s s.look
  | take {s : TokenStream} {kind : TokenKind} {taken : Taken s} (looked : s.looked = true)
      (found : s.take? kind = some taken) (ordinary : kind ∉ [.invalid, .endOfFile]) :
      Move s taken.next
  | build (s : TokenStream) : Move s s.building

abbrev Moves : TokenStream → TokenStream → Prop := Relation.ReflTransGen Move

namespace Moves

variable {s t : TokenStream}

theorem look (h : Moves s t) : Moves s t.look := h.tail (.look t)

private theorem build (h : Moves s t) : Moves s t.building := h.tail (.build t)

theorem keep {good : TokenStream → Prop} (hmove : ∀ {s t}, Move s t → good s → good t)
    (h : Moves s t) (hs : good s) : good t := by
  induction h with
  | refl => exact hs
  | tail _ hlast ih => exact hmove hlast ih

theorem rest_suffix (h : Moves s t) : t.rest <:+ s.rest := by
  induction h with
  | refl => exact List.suffix_rfl
  | tail _ hlast ih =>
    cases hlast with
    | look => rwa [look_rest]
    | take _ hfound _ =>
      rw [(take?_eq_some hfound).1] at ih
      exact (List.suffix_cons _ _).trans ih
    | build => exact ih

private theorem take (h : Moves s t) {kind : TokenKind} {taken : Taken t.look}
    (htaken : t.look.take? kind = some taken) (hkind : kind ∉ [.invalid, .endOfFile]) :
    Moves s taken.next :=
  h.look.tail (.take (look_looked t) htaken hkind)

end Moves

private theorem skip_looked (s : TokenStream) (p : TokenKind → Bool) :
    (s.skip p).1.looked = true := by
  have hfrom (rest : List Token) (s : TokenStream) : (skipFrom p rest s).looked = true := by
    induction rest generalizing s with
    | nil => exact look_looked _
    | cons t rest ih =>
      simp only [skipFrom]
      split
      · exact ih _
      · exact look_looked _
  exact hfrom s.rest s

/-- Skipping looks at every token that it takes, and at the one after them. -/
theorem skip_moves (s : TokenStream) {p : TokenKind → Bool}
    (hp : ∀ kind, p kind = true → kind ∉ [.invalid, .endOfFile]) : Moves s (s.skip p).1 := by
  have hfrom (rest : List Token) (s : TokenStream) :
      Moves { s with rest } (skipFrom p rest s) := by
    induction rest generalizing s with
    | nil => exact .single (.look _)
    | cons t rest ih =>
      let front : TokenStream := { s with rest := t :: rest }
      have hlook : Moves front front.look := .single (.look _)
      simp only [skipFrom]
      split
      · next hkind =>
        obtain ⟨taken, htaken, htoken, hnext⟩ := take?_of_rest ((look_rest front).trans rfl)
        have hstream := take?_next htaken
        rw [htoken, hnext] at hstream
        refine Relation.ReflTransGen.trans ?_ (ih _)
        exact hstream ▸ hlook.tail (.take (look_looked front) htaken (hp _ hkind))
      · exact hlook
  exact hfrom s.rest s

theorem isNewline_ordinary (kind : TokenKind) (h : Syntax.isNewline kind = true) :
    kind ∉ [.invalid, .endOfFile] := by
  rw [beq_iff_eq.mp h]
  decide

theorem isSeparator_ordinary (kind : TokenKind) (h : kind.isSeparator = true) :
    kind ∉ [.invalid, .endOfFile] := by
  rcases Bool.or_eq_true_iff.mp h with h | h
  all_goals
    rw [beq_iff_eq.mp h]
    decide

/-- How a syntax error stops a parse. -/
inductive Halt : TokenStream → TokenStream → Prop
  | unexpected (s : TokenStream) (e : Expected) : Halt s (s.unexpected e)
  /-- The entries before an arrow, which was taken last, do not all declare something. -/
  | undeclared {s t : TokenStream} {list : List Expr} (unlooked : s.looked = false)
      (failed : (Syntax.requireDeclarations s list).outcome = .error t) : Halt s t
  /-- The entries between parentheses mean nothing where no arrow follows the closing one. -/
  | ungrouped {s t : TokenStream} {closing : Taken s} {span : Span} {entries : List Expr}
      {bound : Nat} {short : closing.next.look.size < bound} (looked : s.looked = true)
      (found : s.take? .rparen = some closing)
      (failed : (Syntax.grouped closing.next.look span entries short).outcome = .error t) : Halt s t

end TokenStream

namespace Syntax

open TokenStream

variable {α β : Type} {s t : TokenStream}

/-- A parse from `s` on that fails is stopped by a syntax error; one that succeeds gives something
good. -/
def Leaves (s : TokenStream) (good : α → Prop) : Except TokenStream α → Prop
  | .error stopped => ∃ t, Moves s t ∧ Halt t stopped
  | .ok a => good a

namespace Leaves

theorem of_ok {good : α → Prop} {r : Except TokenStream α} {a : α} (h : Leaves s good r)
    (hr : r = .ok a) : good a := by
  rw [hr] at h
  exact h

private theorem bind {good : α → Prop} {good' : β → Prop} {x : Run α} {next : α → Run β}
    (h : Leaves s good x.outcome) (hnext : ∀ a, good a → Leaves s good' (next a).outcome) :
    Leaves s good' (x >>= next).outcome := by
  rw [Run.outcome_bind]
  cases hout : x.outcome with
  | error stopped =>
    rw [hout] at h
    exact h
  | ok a => exact hnext a (h.of_ok hout)

private theorem after {good good' : α → Prop} {r : Except TokenStream α} (hmoves : Moves s t)
    (h : Leaves t good r) (hgood : ∀ a, good a → good' a) : Leaves s good' r := by
  cases r with
  | error stopped =>
    obtain ⟨u, hu, hhalt⟩ := h
    exact ⟨u, hmoves.trans hu, hhalt⟩
  | ok a => exact hgood a h

private theorem step {bound : Nat} {r : Except TokenStream (Step bound α)} (hmoves : Moves s t)
    (h : Leaves t (fun r => Moves t r.next) r) : Leaves s (fun r => Moves s r.next) r :=
  h.after hmoves fun _ hr => hmoves.trans hr

private theorem unexpected (hmoves : Moves s t) (good : α → Prop) (e : Expected) :
    Leaves s good (.error (t.unexpected e)) :=
  ⟨t, hmoves, .unexpected t e⟩

end Leaves

theorem expect_moves (hmoves : Moves s t) (kind : TokenKind) (e : Expected) :
    Leaves s (fun taken => t.look.take? kind = some taken) (expect t kind e).outcome := by
  unfold expect
  split
  · next taken htaken => exact htaken
  · exact .unexpected hmoves _ e

theorem endItem_moves (hmoves : Moves s t) :
    Leaves s (fun next => Moves s next.1) (endItem t).outcome := by
  unfold endItem
  dsimp only
  split
  · next taken htaken => exact hmoves.take htaken (by decide)
  · next taken _ htaken => exact hmoves.take htaken (by decide)
  · split
    case h_5 => exact .unexpected hmoves _ _
    all_goals exact hmoves.look

private theorem requireDeclarations_moves (hmoves : Moves s t) (hlooked : t.looked = false)
    (list : List Expr) : Leaves s (fun _ => True) (requireDeclarations t list).outcome := by
  cases hresult : (requireDeclarations t list).outcome with
  | error stopped => exact ⟨t, hmoves, .undeclared hlooked hresult⟩
  | ok _ => trivial

private theorem grouped_next {bound : Nat} {span : Span} {entries : List Expr}
    {hlt : t.size < bound}
    {r : Step bound Expr} (h : (grouped t span entries hlt).outcome = .ok r) :
    r.next = t.building := by
  unfold grouped at h
  split at h
  · cases h
  · split at h
    · cases h
      rfl
    · obtain ⟨_, _, h⟩ := Run.bind_eq_ok.mp h
      cases h
      rfl

private theorem grouped_moves {closing : Taken t} (hmoves : Moves s t) (hlooked : t.looked = true)
    (hclosing : t.take? .rparen = some closing) {bound : Nat} (span : Span) (entries : List Expr)
    (hlt : closing.next.look.size < bound) :
    Leaves s (fun r => Moves s r.next) (grouped closing.next.look span entries hlt).outcome := by
  cases hresult : (grouped closing.next.look span entries hlt).outcome with
  | error stopped => exact ⟨t, hmoves, .ungrouped hlooked hclosing hresult⟩
  | ok r =>
    have hclosed : Moves s closing.next := hmoves.tail (.take hlooked hclosing (by decide))
    change Moves s r.next
    rw [grouped_next hresult]
    exact hclosed.look.build

def Step.Closed {bound : Nat} (s : TokenStream) (r : Step bound α) : Prop :=
  ∃ (t : TokenStream) (closing : Taken t), Moves s t ∧ t.looked = true ∧
    t.take? .rparen = some closing ∧ r.next = closing.next

theorem Step.Closed.moves {bound : Nat} {r : Step bound α} (h : r.Closed s) : Moves s r.next := by
  obtain ⟨t, closing, hmoves, hlooked, hclosing, hnext⟩ := h
  exact hnext ▸ hmoves.tail (.take hlooked hclosing (by decide))

private theorem Leaves.closed {bound : Nat} {r : Except TokenStream (Step bound α)}
    (h : Leaves s (Step.Closed s) r) : Leaves s (fun r => Moves s r.next) r :=
  h.after .refl fun _ hr => hr.moves

mutual

theorem expr_moves (s : TokenStream) : Leaves s (fun r => Moves s r.next) (expr s).outcome := by
  rw [expr, Run.outcome_entering]
  split
  · next name hname =>
    have htaken : Moves s name.next := Moves.take .refl hname (by decide)
    have hlt : name.next.size < s.size := by simpa using name.shorter
    dsimp only
    split
    · next hcolon =>
      have hbinding := binding_moves name.token name.next.look (look_looked _)
        (beq_iff_eq.mp hcolon)
      exact .bind (.step htaken.look hbinding) fun _ hr => hr
    · exact .bind (.step htaken.look.build (postfixes_moves _ _ _)) fun _ hr => hr
  · exact operand_moves s
termination_by 8 * s.size + 3
decreasing_by all_goals (try simp only [look_size, building_size]); omega

theorem operand_moves (s : TokenStream) :
    Leaves s (fun r => Moves s r.next) (operand s).outcome := by
  rw [operand, Run.outcome_entering]
  split
  · next opening hopening =>
    have htaken : Moves s opening.next := Moves.take .refl hopening (by decide)
    have hlt : opening.next.size < s.size := by simpa using opening.shorter
    exact .bind (.step htaken (bracketType_moves _ opening.next)) fun _ hr => hr
  · next caret _ hcaret =>
    have htaken : Moves s caret.next := Moves.take .refl hcaret (by decide)
    have hlt : caret.next.size < s.size := by simpa using caret.shorter
    exact .bind (.step htaken (operand_moves caret.next)) fun _ helem => helem.build
  · next name _ _ hname =>
    have htaken : Moves s name.next := Moves.take .refl hname (by decide)
    have hlt : name.next.size < s.size := by simpa using name.shorter
    exact .bind (.step htaken.build (postfixes_moves _ _ name.next.building)) fun _ hr => hr
  · refine .bind (primary_moves s) fun first hfirst => ?_
    have hlt := first.shorter
    exact .bind (.step hfirst (postfixes_moves _ _ first.next)) fun _ hr => hr
termination_by 8 * s.size + 2
decreasing_by all_goals (try simp only [building_size]); omega

theorem ascription_moves (s : TokenStream) :
    Leaves s (fun r => Moves s r.next) (ascription s).outcome := by
  have hlook : Moves s s.look := .single (.look s)
  rw [ascription, Run.outcome_entering]
  split
  · exact hlook
  · exact .bind (.step hlook (operand_moves s.look)) fun _ hr => hr
termination_by 8 * s.size + 3
decreasing_by all_goals (try simp only [look_size]); omega

private theorem binding_moves (name : Token) (s : TokenStream) (hlooked : s.looked = true)
    (hcolon : s.kind = .colon) : Leaves s (fun r => Moves s r.next) (binding name s).outcome := by
  rw [binding, Run.outcome_entering]
  split
  · next hnone =>
    -- A binding starts at a colon that was looked at, so that taking it does not fail.
    exact absurd (s.kind_eq ▸ hcolon) (nextKind_ne_of_take? hnone (by decide))
  · next colon hfound =>
    have htaken : Moves s colon.next := .single (.take hlooked hfound (by decide))
    have hlt := colon.shorter
    refine .bind (.step htaken (ascription_moves colon.next)) fun typed htyped => ?_
    have hlt' := typed.shorter
    dsimp only
    split
    · next second hsecond =>
      have hvalue : Moves s second.next := htyped.take hsecond (by decide)
      have hlt'' : second.next.size < typed.next.size := by simpa using second.shorter
      exact .bind (.step hvalue (expr_moves second.next)) fun _ hr => hr.build
    · next equals _ hequals =>
      have hvalue : Moves s equals.next := htyped.take hequals (by decide)
      have hlt'' : equals.next.size < typed.next.size := by simpa using equals.shorter
      exact .bind (.step hvalue (expr_moves equals.next)) fun _ hr => hr.build
    · exact htyped.look.build
termination_by 8 * s.size
decreasing_by all_goals omega

theorem primary_moves (s : TokenStream) :
    Leaves s (fun r => Moves s r.next) (primary s).outcome := by
  rw [primary, Run.outcome_entering]
  split
  · next literal hliteral =>
    have htaken : Moves s literal.next := Moves.take .refl hliteral (by decide)
    exact htaken.build
  · next opening _ hopening =>
    have htaken : Moves s opening.next := Moves.take .refl hopening (by decide)
    have hlt : opening.next.size < s.size := by simpa using opening.shorter
    exact .bind (.step htaken (parenthesised_moves _ opening.next)) fun _ hr => hr
  · next opening _ _ hopening =>
    have htaken : Moves s opening.next := Moves.take .refl hopening (by decide)
    have hlt : opening.next.size < s.size := by simpa using opening.shorter
    exact .bind (.step htaken (block_moves _ opening.next)) fun _ hr => hr
  · exact .unexpected .refl _ _
termination_by 8 * s.size + 1
decreasing_by all_goals omega

private theorem postfixes_moves (start : Span) (e : Expr) (s : TokenStream) :
    Leaves s (fun r => Moves s r.next) (postfixes start e s).outcome := by
  rw [postfixes, Run.outcome_entering]
  split
  · next opening hopening =>
    have htaken : Moves s opening.next := Moves.take .refl hopening (by decide)
    have hlt : opening.next.size < s.size := by simpa using opening.shorter
    refine .bind (.step htaken (.closed (arguments_moves opening.next))) fun args hargs => ?_
    have hlt' := args.shorter
    exact .bind (.step hargs.build (postfixes_moves _ _ args.next.building)) fun _ hr => hr
  · next dot _ hdot =>
    have htaken : Moves s dot.next := Moves.take .refl hdot (by decide)
    have hlt : dot.next.size < s.size := by simpa using dot.shorter
    refine .bind (expect_moves htaken .ident _) fun member hfound => ?_
    have hmember : Moves s member.next := htaken.take hfound (by decide)
    have hlt' : member.next.size < dot.next.size := by simpa using member.shorter
    exact .bind (.step hmember.build (postfixes_moves _ _ member.next.building)) fun _ hr => hr
  · exact .single (.look s)
termination_by 8 * s.size
decreasing_by all_goals (try simp only [building_size]); omega

theorem arguments_moves (s : TokenStream) : Leaves s (Step.Closed s) (arguments s).outcome := by
  rw [arguments, Run.outcome_entering]
  have hskip := s.skip_moves isNewline_ordinary
  have hle := (s.skip isNewline).2
  refine .bind (.step hskip (argumentEntries_moves (s.skip isNewline).1)) fun entries hentries => ?_
  refine .bind (expect_moves hentries .rparen _) fun closing hclosing => ?_
  exact ⟨entries.next.look, closing, hentries.look, look_looked _, hclosing, rfl⟩
termination_by 8 * s.size + 5
decreasing_by all_goals omega

theorem argumentEntries_moves (s : TokenStream) :
    Leaves s (fun r => Moves s r.next) (argumentEntries s).outcome := by
  have hlook : Moves s s.look := .single (.look s)
  rw [argumentEntries, Run.outcome_entering]
  split
  · exact hlook
  · refine .bind (.step hlook (expr_moves s.look)) fun first hfirst => ?_
    have hlt : first.next.size < s.size := by simpa using first.shorter
    have hle := (first.next.skip isNewline).2
    have hskip := hfirst.trans (first.next.skip_moves isNewline_ordinary)
    dsimp only
    split
    · exact hskip
    · next comma hcomma =>
      have htaken : Moves s comma.next := hskip.tail (.take (skip_looked _ _) hcomma (by decide))
      have hlt' := comma.shorter
      have hle' := (comma.next.skip isNewline).2
      have hrest := htaken.trans (comma.next.skip_moves isNewline_ordinary)
      exact .bind (.step hrest (argumentEntries_moves (comma.next.skip isNewline).1)) fun _ hr => hr
termination_by 8 * s.size + 4
decreasing_by all_goals (try simp only [look_size]); omega

private theorem parenthesised_moves (start : Span) (s : TokenStream) :
    Leaves s (fun r => Moves s r.next) (parenthesised start s).outcome := by
  rw [parenthesised, Run.outcome_entering]
  refine .bind (arguments_moves s) fun args hargs => ?_
  have hlt := args.shorter
  dsimp only
  split
  · next arrow harrow =>
    have htaken : Moves s arrow.next := hargs.moves.take harrow (by decide)
    have hlt' : arrow.next.size < args.next.size := by simpa using arrow.shorter
    have hunlooked : arrow.next.looked = false := by rw [take?_next harrow]
    refine .bind (requireDeclarations_moves htaken hunlooked _) fun _ _ => ?_
    refine .bind (.step htaken (operand_moves arrow.next)) fun ret hret => ?_
    have hlt'' := ret.shorter
    split
    · exact hret.look.build
    · next opening hopening =>
      have hbody : Moves s opening.next := hret.take hopening (by decide)
      have hlt₃ : opening.next.size < ret.next.size := by simpa using opening.shorter
      exact .bind (.step hbody (block_moves _ opening.next)) fun _ hr => hr.build
  · obtain ⟨value, next, shorter⟩ := args
    obtain ⟨t, closing, hmoves, hlooked, hclosing, rfl⟩ := hargs
    exact grouped_moves hmoves hlooked hclosing _ _ _
termination_by 8 * s.size + 6
decreasing_by all_goals omega

theorem block_moves (start : Span) (s : TokenStream) :
    Leaves s (fun r => Moves s r.next) (block start s).outcome := by
  rw [block, Run.outcome_entering]
  exact .bind (blockEntries_moves s) fun _ hentries => hentries.build
termination_by 8 * s.size + 5
decreasing_by all_goals omega

theorem blockEntries_moves (s : TokenStream) :
    Leaves s (fun r => Moves s r.next) (blockEntries s).outcome := by
  rw [blockEntries, Run.outcome_entering]
  have hle := (s.skip TokenKind.isSeparator).2
  have hskip := s.skip_moves isSeparator_ordinary
  dsimp only
  split
  · next closing hclosing => exact hskip.tail (.take (skip_looked _ _) hclosing (by decide))
  · refine .bind (.step hskip (expr_moves (s.skip TokenKind.isSeparator).1)) fun first hfirst => ?_
    have hlt := first.shorter
    refine .bind (endItem_moves hfirst) fun u hu => ?_
    have hle' := u.2
    split
    case h_4 => exact .bind (.step hu.look (blockEntries_moves u.1.look)) fun _ hr => hr
    all_goals exact .unexpected hu.look _ _
termination_by 8 * s.size + 4
decreasing_by all_goals (try simp only [look_size]); omega

private theorem bracketType_moves (start : Span) (s : TokenStream) :
    Leaves s (fun r => Moves s r.next) (bracketType start s).outcome := by
  rw [bracketType, Run.outcome_entering]
  dsimp only
  split
  · next closing hclosing =>
    have htaken : Moves s closing.next := Moves.take .refl hclosing (by decide)
    have hlt : closing.next.size < s.size := by simpa using closing.shorter
    exact .bind (.step htaken (operand_moves closing.next)) fun _ helem => helem.build
  · next caret _ hcaret =>
    have htaken : Moves s caret.next := Moves.take .refl hcaret (by decide)
    have hlt : caret.next.size < s.size := by simpa using caret.shorter
    refine .bind (expect_moves htaken .rbracket _) fun closing hfound => ?_
    have hclosing : Moves s closing.next := htaken.take hfound (by decide)
    have hlt' : closing.next.size < caret.next.size := by simpa using closing.shorter
    exact .bind (.step hclosing (operand_moves closing.next)) fun _ helem => helem.build
  · have hlook : Moves s s.look := .single (.look s)
    refine .bind (.step hlook (operand_moves s.look)) fun length hlength => ?_
    have hlt : length.next.size < s.size := by simpa using length.shorter
    refine .bind (expect_moves hlength .rbracket _) fun closing hfound => ?_
    have hclosing : Moves s closing.next := hlength.take hfound (by decide)
    have hlt' : closing.next.size < length.next.size := by simpa using closing.shorter
    exact .bind (.step hclosing (operand_moves closing.next)) fun _ helem => helem.build
termination_by 8 * s.size + 4
decreasing_by all_goals (try simp only [look_size]); omega

end

/-- Parsing items ends with a syntax error, or at the end of the file after looking at it. -/
theorem items_moves (s : TokenStream) :
    if (items s).failed then ∃ t, Moves s t ∧ Halt t (items s).last
    else Moves s (items s).last ∧ (items s).last.looked = true ∧
      (items s).last.kind = .endOfFile := by
  have hskip := s.skip_moves isSeparator_ordinary
  have hle := (s.skip TokenKind.isSeparator).2
  have hexpr := Leaves.step hskip (expr_moves (s.skip TokenKind.isSeparator).1)
  rw [items]
  dsimp only
  split
  · next hend =>
    rw [if_neg Bool.false_ne_true]
    exact ⟨hskip, skip_looked _ _, beq_iff_eq.mp hend⟩
  · split
    · next stopped hstopped =>
      rw [hstopped] at hexpr
      rw [if_pos rfl]
      exact hexpr
    · next first hfirst =>
      rw [hfirst] at hexpr
      have hlt := first.shorter
      have hend := endItem_moves hexpr
      split
      · next stopped hstopped =>
        rw [hstopped] at hend
        rw [if_pos rfl]
        exact hend
      · next u hu hok =>
        rw [hok] at hend
        have hothers := items_moves u
        dsimp only
        split
        · next hfailed =>
          rw [if_pos hfailed] at hothers
          obtain ⟨t, ht, hhalt⟩ := hothers
          exact ⟨t, Relation.ReflTransGen.trans hend ht, hhalt⟩
        · next hfailed =>
          rw [if_neg hfailed] at hothers
          exact ⟨Relation.ReflTransGen.trans hend hothers.1, hothers.2⟩
termination_by s.size
decreasing_by omega

end Syntax

end Keywordless
