import Keywordless.Proofs.Outcome
import Keywordless.Proofs.StreamTokens

/-!
# Where trees and reports point

What the parser builds and what it reports stands at spans of tokens, or at spans that cover them.
Whatever holds of the spans of the tokens and goes over to covers holds of every span of the tree
and of every report, also where the parse fails. Every report is an error.
-/

namespace Keywordless

namespace Expr

mutual

def SpansIn (spots : Span → Prop) : Expr → Prop
  | absent => True
  | node h type value body list =>
    (spots h.span ∧ (h.kind = .member → spots h.nameSpan)) ∧ SpansIn spots type ∧
      SpansIn spots value ∧ SpansIn spots body ∧ AllSpansIn spots list

def AllSpansIn (spots : Span → Prop) : List Expr → Prop
  | [] => True
  | e :: rest => SpansIn spots e ∧ AllSpansIn spots rest

end

theorem SpansIn.span {spots : Span → Prop} {e : Expr} (h : e.SpansIn spots) (hnone : spots {}) :
    spots e.span := by
  cases e with
  | absent => exact hnone
  | node => exact h.1.1

private theorem allSpansIn_iff {spots : Span → Prop} {list : List Expr} :
    AllSpansIn spots list ↔ ∀ e ∈ list, e.SpansIn spots := by
  induction list with
  | nil => simp [AllSpansIn]
  | cons e rest ih => rw [AllSpansIn, ih, List.forall_mem_cons]

mutual

private theorem spansIn_true : (e : Expr) → e.SpansIn fun _ => True
  | absent => trivial
  | node _ type value body list =>
    ⟨⟨trivial, fun _ => trivial⟩, spansIn_true type, spansIn_true value, spansIn_true body,
      allSpansIn_true list⟩

theorem allSpansIn_true : (list : List Expr) → AllSpansIn (fun _ => True) list
  | [] => trivial
  | e :: rest => ⟨spansIn_true e, allSpansIn_true rest⟩

end

end Expr

/-- What goes over to the spans that the parser makes of others. -/
structure Spots (spots : Span → Prop) : Prop where
  none : spots {}
  cover : ∀ {a b}, spots a → spots b → spots (a.cover b)
  atStop : ∀ {a}, spots a → spots a.atStop

structure Diagnostic.ErrorIn (spots : Span → Prop) (d : Diagnostic) : Prop where
  severity : d.severity = .error
  primary : spots d.primary
  notes : ∀ n ∈ d.notes, spots n.span

theorem Diagnostic.ErrorIn.error {spots : Span → Prop} {d : Diagnostic} (h : d.ErrorIn spots) :
    d.isError = true := by
  simp [isError, h.severity]

namespace TokenStream

/-- The tokens that are left, the last one taken and the reports so far meet `spots`. -/
structure Placed (spots : Span → Prop) (s : TokenStream) : Prop where
  tokens : ∀ t ∈ s.rest, spots t.span
  last : spots s.lastSpan
  reports : ∀ d ∈ s.reports, d.ErrorIn spots

namespace Placed

variable {spots : Span → Prop} {s : TokenStream}

private theorem report (h : s.Placed spots) {code : Code} {span : Span} {message : Bytes}
    (hspan : spots span) : (s.report code span message).Placed spots := by
  refine ⟨h.tokens, h.last, ?_⟩
  intro d hd
  obtain hd | hd := List.mem_append.mp hd
  · exact h.reports d hd
  · obtain rfl := List.mem_singleton.mp hd
    exact ⟨rfl, hspan, nofun⟩

private theorem look (h : s.Placed spots) : s.look.Placed spots := by
  unfold TokenStream.look
  split
  · exact h
  · refine ⟨h.tokens, h.last, ?_⟩
    intro d hd
    obtain hd | hd := List.mem_append.mp hd
    · exact h.reports d hd
    · obtain ⟨t, ht, hreport⟩ := Option.bind_eq_some_iff.mp (Option.mem_toList.mp hd)
      obtain ⟨e, -, rfl⟩ := Option.map_eq_some_iff.mp hreport
      exact ⟨rfl, h.tokens t (List.mem_of_head? ht), nofun⟩

private theorem building (h : s.Placed spots) :
    s.building.Placed spots := ⟨h.tokens, h.last, h.reports⟩

private theorem take? (h : s.Placed spots) {kind : TokenKind} {taken : Taken s}
    (htaken : s.take? kind = some taken) :
    spots taken.token.span ∧ taken.next.Placed spots := by
  unfold TokenStream.take? at htaken
  split at htaken
  · next t rest hrest =>
    split at htaken
    · obtain rfl := Option.some.inj htaken
      have ht : spots t.span := h.tokens t (by simp [hrest])
      exact ⟨ht, fun u hu => h.tokens u (by simp [hrest, hu]), ht, h.reports⟩
    · cases htaken
  · cases htaken

private theorem skip (h : s.Placed spots) (p : TokenKind → Bool) : (s.skip p).1.Placed spots := by
  have hskip {rest : List Token} (hrest : ∀ t ∈ rest, spots t.span) {s : TokenStream}
      (h : s.Placed spots) : (skipFrom p rest s).Placed spots := by
    induction rest generalizing s with
    | nil => exact look ⟨hrest, h.last, h.reports⟩
    | cons t rest ih =>
      have hlook : ({ s with rest := t :: rest } : TokenStream).look.Placed spots :=
        look ⟨hrest, h.last, h.reports⟩
      have hrest' (u : Token) (hu : u ∈ rest) := hrest u (List.mem_cons_of_mem t hu)
      simp only [skipFrom]
      split
      · exact ih hrest' ⟨hlook.tokens, hrest t List.mem_cons_self, hlook.reports⟩
      · exact hlook
  exact hskip h.tokens h

private theorem unexpected (hspots : Spots spots) (h : s.Placed spots) (e : Expected) :
    (s.unexpected e).Placed spots := by
  have hlook := h.look
  unfold TokenStream.unexpected
  dsimp only
  split
  · exact hlook.report (hspots.atStop hlook.last)
  · next t rest hrest =>
    have ht : spots t.span := hlook.tokens t (hrest ▸ List.mem_cons_self)
    split
    · exact hlook
    · exact hlook.report (hspots.atStop hlook.last)
    · exact hlook.report ht
    · exact hlook.report ht

end Placed

end TokenStream

namespace Syntax

open TokenStream

variable {spots : Span → Prop} {α β : Type}

/-- A parse that fails stops at a stream that meets `spots`; one that succeeds gives something
good. -/
def Ends (spots : Span → Prop) (good : α → Prop) : Except TokenStream α → Prop
  | .error stopped => stopped.Placed spots
  | .ok a => good a

private theorem Ends.bind {good : α → Prop} {good' : β → Prop} {x : Run α} {next : α → Run β}
    (h : Ends spots good x.outcome) (hnext : ∀ a, good a → Ends spots good' (next a).outcome) :
    Ends spots good' (x >>= next).outcome := by
  rw [Run.outcome_bind]
  cases hout : x.outcome with
  | error stopped =>
    rw [hout] at h
    exact h
  | ok a =>
    rw [hout] at h
    exact hnext a h

def Step.Good {bound : Nat} (spots : Span → Prop) (good : α → Prop) (r : Step bound α) : Prop :=
  r.next.Placed spots ∧ good r.value

private theorem expect_ends (hspots : Spots spots) {s : TokenStream} (h : s.Placed spots)
    (kind : TokenKind) (e : Expected) :
    Ends spots (fun taken => spots taken.token.span ∧ taken.next.Placed spots)
      (expect s kind e).outcome := by
  unfold expect
  split
  · next taken htaken => exact h.look.take? htaken
  · exact h.unexpected hspots e

private theorem endItem_ends (hspots : Spots spots) {s : TokenStream} (h : s.Placed spots) :
    Ends spots (fun next => next.1.Placed spots) (endItem s).outcome := by
  unfold endItem
  dsimp only
  split
  · next taken htaken => exact (h.look.take? htaken).2
  · next taken _ htaken => exact (h.look.take? htaken).2
  · split
    · exact h.look
    · exact h.look
    · exact h.look
    · exact h.look
    · exact h.unexpected hspots _

private theorem requireDeclarations_ends (hspots : Spots spots) {s : TokenStream}
    (h : s.Placed spots) {list : List Expr} (hlist : Expr.AllSpansIn spots list) :
    Ends spots (fun _ => True) (requireDeclarations s list).outcome := by
  unfold requireDeclarations
  split
  · next e he =>
    have hmem : e ∈ list := List.mem_of_find?_eq_some he
    exact h.report ((Expr.allSpansIn_iff.mp hlist e hmem).span hspots.none)
  · trivial

private theorem grouped_ends (hspots : Spots spots) {bound : Nat} {t : TokenStream}
    (h : t.Placed spots) {span : Span} (hspan : spots span) {entries : List Expr}
    (hentries : Expr.AllSpansIn spots entries) (hlt : t.size < bound) :
    Ends spots (Step.Good spots (Expr.SpansIn spots)) (grouped t span entries hlt).outcome := by
  unfold grouped
  split
  · exact h.report hspan
  · next first others =>
    split
    · exact ⟨h.building, ⟨hspan, by simp⟩, trivial, hentries.1, trivial, trivial⟩
    · refine .bind (requireDeclarations_ends hspots h hentries) fun _ _ => ?_
      exact ⟨h.building, ⟨hspan, by simp⟩, trivial, trivial, trivial, hentries⟩

mutual

private theorem expr_ends (hspots : Spots spots) (s : TokenStream) (h : s.Placed spots) :
    Ends spots (Step.Good spots (Expr.SpansIn spots)) (expr s).outcome := by
  rw [expr, Run.outcome_entering]
  split
  · next name hname =>
    obtain ⟨htoken, hnext⟩ := h.look.take? hname
    have hlt : name.next.size < s.size := by simpa using name.shorter
    dsimp only
    split
    · exact .bind (binding_ends hspots htoken name.next.look hnext.look) fun r hr => hr
    · refine .bind (postfixes_ends hspots htoken ?_ name.next.look.building hnext.look.building)
        fun r hr => hr
      exact ⟨⟨htoken, nofun⟩, trivial, trivial, trivial, trivial⟩
  · exact operand_ends hspots s h
termination_by 8 * s.size + 3
decreasing_by all_goals (try simp only [look_size, building_size]); omega

private theorem operand_ends (hspots : Spots spots) (s : TokenStream) (h : s.Placed spots) :
    Ends spots (Step.Good spots (Expr.SpansIn spots)) (operand s).outcome := by
  rw [operand, Run.outcome_entering]
  split
  · next opening hopening =>
    obtain ⟨htoken, hnext⟩ := h.look.take? hopening
    have hlt : opening.next.size < s.size := by simpa using opening.shorter
    exact .bind (bracketType_ends hspots htoken opening.next hnext) fun r hr => hr
  · next caret _ hcaret =>
    obtain ⟨htoken, hnext⟩ := h.look.take? hcaret
    have hlt : caret.next.size < s.size := by simpa using caret.shorter
    refine .bind (operand_ends hspots caret.next hnext) fun elem helem => ?_
    exact ⟨helem.1.building, ⟨hspots.cover htoken helem.1.last, nofun⟩, helem.2, trivial, trivial,
      trivial⟩
  · next name _ _ hname =>
    obtain ⟨htoken, hnext⟩ := h.look.take? hname
    have hlt : name.next.size < s.size := by simpa using name.shorter
    refine .bind (postfixes_ends hspots htoken ?_ name.next.building hnext.building) fun r hr => hr
    exact ⟨⟨htoken, nofun⟩, trivial, trivial, trivial, trivial⟩
  · refine .bind (primary_ends hspots s h) fun first hfirst => ?_
    have hlt := first.shorter
    have hspan := hfirst.2.span hspots.none
    exact .bind (postfixes_ends hspots hspan hfirst.2 first.next hfirst.1) fun r hr => hr
termination_by 8 * s.size + 2
decreasing_by all_goals (try simp only [building_size]); omega

private theorem ascription_ends (hspots : Spots spots) (s : TokenStream) (h : s.Placed spots) :
    Ends spots (Step.Good spots (Expr.SpansIn spots)) (ascription s).outcome := by
  rw [ascription, Run.outcome_entering]
  split
  · exact ⟨h.look, trivial⟩
  · exact .bind (operand_ends hspots s.look h.look) fun r hr => hr
termination_by 8 * s.size + 3
decreasing_by all_goals (try simp only [look_size]); omega

private theorem binding_ends (hspots : Spots spots) {name : Token} (hname : spots name.span)
    (s : TokenStream) (h : s.Placed spots) :
    Ends spots (Step.Good spots (Expr.SpansIn spots)) (binding name s).outcome := by
  rw [binding, Run.outcome_entering]
  split
  · exact h
  · next colon hcolon =>
    obtain ⟨-, hnext⟩ := h.take? hcolon
    have hlt := colon.shorter
    refine .bind (ascription_ends hspots colon.next hnext) fun typed htyped => ?_
    have hlt' := typed.shorter
    have hu := htyped.1.look
    dsimp only
    split
    · next second hsecond =>
      obtain ⟨-, hnext'⟩ := hu.take? hsecond
      have hlt'' : second.next.size < typed.next.size := by simpa using second.shorter
      refine .bind (expr_ends hspots second.next hnext') fun value hvalue => ?_
      exact ⟨hvalue.1.building, ⟨hspots.cover hname hvalue.1.last, nofun⟩, htyped.2, hvalue.2,
        trivial, trivial⟩
    · next equals _ hequals =>
      obtain ⟨-, hnext'⟩ := hu.take? hequals
      have hlt'' : equals.next.size < typed.next.size := by simpa using equals.shorter
      refine .bind (expr_ends hspots equals.next hnext') fun value hvalue => ?_
      exact ⟨hvalue.1.building, ⟨hspots.cover hname hvalue.1.last, nofun⟩, htyped.2, hvalue.2,
        trivial, trivial⟩
    · exact ⟨hu.building, ⟨hspots.cover hname hu.last, nofun⟩, htyped.2, trivial, trivial, trivial⟩
termination_by 8 * s.size
decreasing_by all_goals omega

private theorem primary_ends (hspots : Spots spots) (s : TokenStream) (h : s.Placed spots) :
    Ends spots (Step.Good spots (Expr.SpansIn spots)) (primary s).outcome := by
  rw [primary, Run.outcome_entering]
  split
  · next literal hliteral =>
    obtain ⟨htoken, hnext⟩ := h.look.take? hliteral
    exact ⟨hnext.building, ⟨htoken, nofun⟩, trivial, trivial, trivial, trivial⟩
  · next opening _ hopening =>
    obtain ⟨htoken, hnext⟩ := h.look.take? hopening
    have hlt : opening.next.size < s.size := by simpa using opening.shorter
    exact .bind (parenthesised_ends hspots htoken opening.next hnext) fun r hr => hr
  · next opening _ _ hopening =>
    obtain ⟨htoken, hnext⟩ := h.look.take? hopening
    have hlt : opening.next.size < s.size := by simpa using opening.shorter
    exact .bind (block_ends hspots htoken opening.next hnext) fun r hr => hr
  · exact h.unexpected hspots _
termination_by 8 * s.size + 1
decreasing_by all_goals omega

private theorem postfixes_ends (hspots : Spots spots) {start : Span} (hstart : spots start)
    {e : Expr} (he : e.SpansIn spots) (s : TokenStream) (h : s.Placed spots) :
    Ends spots (Step.Good spots (Expr.SpansIn spots)) (postfixes start e s).outcome := by
  rw [postfixes, Run.outcome_entering]
  split
  · next opening hopening =>
    obtain ⟨-, hnext⟩ := h.look.take? hopening
    have hlt : opening.next.size < s.size := by simpa using opening.shorter
    refine .bind (arguments_ends hspots opening.next hnext) fun args hargs => ?_
    have hlt' := args.shorter
    refine .bind (postfixes_ends hspots hstart ?_ args.next.building hargs.1.building)
      fun r hr => hr
    exact ⟨⟨hspots.cover hstart hargs.1.last, nofun⟩, trivial, he, trivial, hargs.2⟩
  · next dot _ hdot =>
    obtain ⟨-, hnext⟩ := h.look.take? hdot
    have hlt : dot.next.size < s.size := by simpa using dot.shorter
    refine .bind (expect_ends hspots hnext .ident .identifier) fun member hmember => ?_
    have hlt' : member.next.size < dot.next.size := by simpa using member.shorter
    refine .bind (postfixes_ends hspots hstart ?_ member.next.building hmember.2.building)
      fun r hr => hr
    exact ⟨⟨hspots.cover hstart hmember.2.last, fun _ => hmember.1⟩, trivial, he, trivial, trivial⟩
  · exact ⟨h.look, he⟩
termination_by 8 * s.size
decreasing_by all_goals (try simp only [building_size]); omega

private theorem arguments_ends (hspots : Spots spots) (s : TokenStream) (h : s.Placed spots) :
    Ends spots (Step.Good spots (Expr.AllSpansIn spots)) (arguments s).outcome := by
  rw [arguments, Run.outcome_entering]
  have hle := (s.skip isNewline).2
  refine .bind (argumentEntries_ends hspots (s.skip isNewline).1 (h.skip isNewline))
    fun entries hentries => ?_
  refine .bind (expect_ends hspots hentries.1 .rparen (.token .rparen)) fun closing hclosing => ?_
  exact ⟨hclosing.2, hentries.2⟩
termination_by 8 * s.size + 5
decreasing_by all_goals omega

private theorem argumentEntries_ends (hspots : Spots spots) (s : TokenStream) (h : s.Placed spots) :
    Ends spots (Step.Good spots (Expr.AllSpansIn spots)) (argumentEntries s).outcome := by
  rw [argumentEntries, Run.outcome_entering]
  split
  · exact ⟨h.look, trivial⟩
  · refine .bind (expr_ends hspots s.look h.look) fun first hfirst => ?_
    have hlt : first.next.size < s.size := by simpa using first.shorter
    have hle := (first.next.skip isNewline).2
    have hskip := hfirst.1.skip isNewline
    dsimp only
    split
    · exact ⟨hskip, hfirst.2, trivial⟩
    · next comma hcomma =>
      obtain ⟨-, hnext⟩ := hskip.take? hcomma
      have hlt' := comma.shorter
      have hle' := (comma.next.skip isNewline).2
      refine .bind (argumentEntries_ends hspots (comma.next.skip isNewline).1
        (hnext.skip isNewline)) fun others hothers => ?_
      exact ⟨hothers.1, hfirst.2, hothers.2⟩
termination_by 8 * s.size + 4
decreasing_by all_goals (try simp only [look_size]); omega

private theorem parenthesised_ends (hspots : Spots spots) {start : Span} (hstart : spots start)
    (s : TokenStream) (h : s.Placed spots) :
    Ends spots (Step.Good spots (Expr.SpansIn spots)) (parenthesised start s).outcome := by
  rw [parenthesised, Run.outcome_entering]
  refine .bind (arguments_ends hspots s h) fun args hargs => ?_
  have hlt := args.shorter
  have ht := hargs.1.look
  dsimp only
  split
  · next arrow harrow =>
    obtain ⟨-, hnext⟩ := ht.take? harrow
    have hlt' : arrow.next.size < args.next.size := by simpa using arrow.shorter
    refine .bind (requireDeclarations_ends hspots hnext hargs.2) fun _ _ => ?_
    refine .bind (operand_ends hspots arrow.next hnext) fun ret hret => ?_
    have hlt'' := ret.shorter
    have hu := hret.1.look
    split
    · exact ⟨hu.building, ⟨hspots.cover hstart hu.last, nofun⟩, hret.2, trivial, trivial, hargs.2⟩
    · next opening hopening =>
      obtain ⟨htoken, hnext'⟩ := hu.take? hopening
      have hlt₃ : opening.next.size < ret.next.size := by simpa using opening.shorter
      refine .bind (block_ends hspots htoken opening.next hnext') fun body hbody => ?_
      exact ⟨hbody.1.building, ⟨hspots.cover hstart hbody.1.last, nofun⟩, hret.2, trivial, hbody.2,
        hargs.2⟩
  · exact grouped_ends hspots ht (hspots.cover hstart hargs.1.last) hargs.2 _
termination_by 8 * s.size + 6
decreasing_by all_goals omega

private theorem block_ends (hspots : Spots spots) {start : Span} (hstart : spots start)
    (s : TokenStream) (h : s.Placed spots) :
    Ends spots (Step.Good spots (Expr.SpansIn spots)) (block start s).outcome := by
  rw [block, Run.outcome_entering]
  refine .bind (blockEntries_ends hspots s h) fun entries hentries => ?_
  exact ⟨hentries.1.building, ⟨hspots.cover hstart hentries.1.last, nofun⟩, trivial, trivial,
    trivial, hentries.2⟩
termination_by 8 * s.size + 5
decreasing_by all_goals omega

private theorem blockEntries_ends (hspots : Spots spots) (s : TokenStream) (h : s.Placed spots) :
    Ends spots (Step.Good spots (Expr.AllSpansIn spots)) (blockEntries s).outcome := by
  rw [blockEntries, Run.outcome_entering]
  have hle := (s.skip TokenKind.isSeparator).2
  have hskip := h.skip TokenKind.isSeparator
  dsimp only
  split
  · next closing hclosing => exact ⟨(hskip.take? hclosing).2, trivial⟩
  · refine .bind (expr_ends hspots (s.skip TokenKind.isSeparator).1 hskip) fun first hfirst => ?_
    have hlt := first.shorter
    refine .bind (endItem_ends hspots hfirst.1) fun u hu => ?_
    have hle' := u.2
    split
    case h_4 =>
      refine .bind (blockEntries_ends hspots u.1.look hu.look) fun others hothers => ?_
      exact ⟨hothers.1, hfirst.2, hothers.2⟩
    all_goals exact hu.look.unexpected hspots _
termination_by 8 * s.size + 4
decreasing_by all_goals (try simp only [look_size]); omega

private theorem bracketType_ends (hspots : Spots spots) {start : Span} (hstart : spots start)
    (s : TokenStream) (h : s.Placed spots) :
    Ends spots (Step.Good spots (Expr.SpansIn spots)) (bracketType start s).outcome := by
  rw [bracketType, Run.outcome_entering]
  have ht := h.look
  dsimp only
  split
  · next closing hclosing =>
    obtain ⟨-, hnext⟩ := ht.take? hclosing
    have hlt : closing.next.size < s.size := by simpa using closing.shorter
    refine .bind (operand_ends hspots closing.next hnext) fun elem helem => ?_
    exact ⟨helem.1.building, ⟨hspots.cover hstart helem.1.last, nofun⟩, helem.2, trivial, trivial,
      trivial⟩
  · next caret _ hcaret =>
    obtain ⟨-, hnext⟩ := ht.take? hcaret
    have hlt : caret.next.size < s.size := by simpa using caret.shorter
    refine .bind (expect_ends hspots hnext .rbracket (.token .rbracket)) fun closing hclosing => ?_
    have hlt' : closing.next.size < caret.next.size := by simpa using closing.shorter
    refine .bind (operand_ends hspots closing.next hclosing.2) fun elem helem => ?_
    exact ⟨helem.1.building, ⟨hspots.cover hstart helem.1.last, nofun⟩, helem.2, trivial, trivial,
      trivial⟩
  · refine .bind (operand_ends hspots s.look ht) fun length hlength => ?_
    have hlt : length.next.size < s.size := by simpa using length.shorter
    refine .bind (expect_ends hspots hlength.1 .rbracket (.token .rbracket))
      fun closing hclosing => ?_
    have hlt' : closing.next.size < length.next.size := by simpa using closing.shorter
    refine .bind (operand_ends hspots closing.next hclosing.2) fun elem helem => ?_
    exact ⟨helem.1.building, ⟨hspots.cover hstart helem.1.last, nofun⟩, helem.2, hlength.2, trivial,
      trivial⟩
termination_by 8 * s.size + 4
decreasing_by all_goals (try simp only [look_size]); omega

end

private theorem items_placed (hspots : Spots spots) (s : TokenStream) (h : s.Placed spots) :
    (items s).last.Placed spots ∧ Expr.AllSpansIn spots (items s).items := by
  have hskip := h.skip TokenKind.isSeparator
  have hle := (s.skip TokenKind.isSeparator).2
  have hends := expr_ends hspots (s.skip TokenKind.isSeparator).1 hskip
  rw [items]
  dsimp only
  split
  · exact ⟨hskip, trivial⟩
  · split
    · next stopped hstopped =>
      rw [hstopped] at hends
      exact ⟨hends, trivial⟩
    · next first hfirst =>
      rw [hfirst] at hends
      have hlt := first.shorter
      have hend := endItem_ends hspots hends.1
      split
      · next stopped hstopped =>
        rw [hstopped] at hend
        exact ⟨hend, hends.2, trivial⟩
      · next u hu hok =>
        rw [hok] at hend
        obtain ⟨hlast, hothers⟩ := items_placed hspots u hend
        exact ⟨hlast, hends.2, hothers⟩
termination_by s.size
decreasing_by omega

end Syntax

/-- What holds of the tokens of a file holds of its tree and of the reports on it. -/
theorem SourceFile.parse_spots {spots : Span → Prop} (hspots : Spots spots) (f : SourceFile)
    (hstart : spots { file := f.id }) (htokens : ∀ t ∈ f.tokens, spots t.span) :
    (∀ d ∈ f.parse.reports, d.ErrorIn spots) ∧ spots f.parse.file.span ∧
      Expr.AllSpansIn spots f.parse.file.items := by
  have hplaced : ({ rest := f.tokens, lastSpan := { file := f.id } } : TokenStream).Placed spots :=
    ⟨htokens, hstart, by simp⟩
  obtain ⟨hlast, hitems⟩ := Syntax.items_placed hspots _ hplaced.look
  refine ⟨hlast.reports, ?_, hitems⟩
  have hfirst : spots ((f.tokens.head?.map Token.span).getD { file := f.id }) := by
    cases htoken : f.tokens.head? with
    | none => exact hstart
    | some t => exact htokens t (List.mem_of_head? htoken)
  unfold SourceFile.parse Syntax.parseTokens
  dsimp only
  split
  · exact hstart
  · exact hspots.cover hfirst hlast.last

private theorem tokensFrom_file {file : FileId} {offset : Nat} {text : Bytes} :
    ∀ t ∈ tokensFrom file offset text, t.span.file = file := by
  have hscan (offset : Nat) (text : Bytes) :
      (scanToken file offset text).token.span.file = file := by
    simp only [scanToken]
    split <;> rfl
  fun_induction tokensFrom file offset text with
  | case1 offset text scanned h => simpa [scanned] using hscan offset text
  | case2 offset text scanned h ih =>
    rw [List.forall_mem_cons]
    exact ⟨hscan offset text, ih⟩

theorem SourceFile.parse_inFile (f : SourceFile) (hid : f.id = 0) :
    (∀ d ∈ f.parse.reports, d.ErrorIn (·.file = 0)) ∧ f.parse.file.span.file = 0 ∧
      Expr.AllSpansIn (·.file = 0) f.parse.file.items := by
  have hspots : Spots (·.file = 0) := by
    refine ⟨rfl, ?_, fun h => h⟩
    intro a b ha hb
    unfold Span.cover
    split
    · exact ha
    · exact ha
  exact f.parse_spots hspots hid fun t ht => (tokensFrom_file t ht).trans hid

end Keywordless
