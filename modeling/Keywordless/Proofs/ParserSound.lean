import Keywordless.Proofs.Outcome
import Keywordless.Proofs.StreamTokens

/-!
# What the parser reads is derived

Each step of the descent that succeeds has read what one relation of the grammar derives, and the
derivation is greedy: the parser leaves an operand only when nothing that follows could belong to
it. The statements follow the descent and end for the same reason as it does.
-/

namespace Keywordless.Syntax

open TokenStream
open Grammar (nextKind Expression Ascription Operand Primary Operators Operator Block Arguments
  Entries Sequence Rest)

/-- The tokens start with nothing that could belong to an operand before them. -/
structure Settled (dangling : Bool) (w : List Token) : Prop where
  lparen : nextKind w ≠ .lparen
  dot : nextKind w ≠ .dot
  lbrace : dangling = true → nextKind w ≠ .lbrace

theorem requireDeclarations_eq_ok {s : TokenStream} {list : List Expr} {done : Unit}
    (h : (requireDeclarations s list).outcome = .ok done) :
    ∀ e ∈ list.map Expr.bare, e.kind = .declaration := by
  unfold requireDeclarations at h
  split at h
  · cases h
  · next hnone =>
    intro e he
    obtain ⟨d, hd, rfl⟩ := List.mem_map.mp he
    simpa using List.find?_eq_none.mp hnone d hd

theorem requireDeclarations_of_all {s : TokenStream} {list : List Expr}
    (h : ∀ e ∈ list.map Expr.bare, e.kind = .declaration) :
    (requireDeclarations s list).outcome = .ok () := by
  have hnone : firstOther? list = none := by
    refine List.find?_eq_none.mpr fun e he => ?_
    simpa using h e.bare (List.mem_map_of_mem he)
  rw [requireDeclarations, hnone]
  rfl

private theorem grouped_sound {greedy : Prop} {bound : Nat} {t : TokenStream} {span : Span}
    {entries : List Expr} {hlt : t.size < bound} {r : Step bound Expr} {w : List Token}
    (h : (grouped t span entries hlt).outcome = .ok r)
    (hargs : Arguments greedy w (entries.map Expr.bare) t.rest) :
    Primary greedy w r.value.bare false r.next.rest := by
  unfold grouped at h
  split at h
  · cases h
  · next first others =>
    split at h
    · next hsingle =>
      obtain ⟨hothers, hother⟩ := Bool.and_eq_true_iff.mp hsingle
      obtain rfl := List.isEmpty_iff.mp hothers
      obtain rfl := Except.ok.inj h
      rw [finish_value, bare_built]
      exact .paren hargs (by simpa using hother)
    · obtain ⟨_, hdeclared, h⟩ := Run.bind_eq_ok.mp h
      obtain rfl := Except.ok.inj h
      rw [finish_value, bare_built]
      exact .structType hargs (by simp) (requireDeclarations_eq_ok hdeclared)

/-- What follows an expression is a sequence behind a separator, or it closes the sequence. -/
theorem rest_of_endItem {greedy : Prop} {s : TokenStream} {list : List Expr} {w : List Token}
    {u : { next : TokenStream // next.size ≤ s.size }} (hu : (endItem s).outcome = .ok u)
    (hlist : Sequence greedy u.1.rest list w) : Rest greedy s.rest list w := by
  obtain ⟨sep, hsep, hrest⟩ | ⟨hrest, hcloses⟩ := endItem_eq_ok hu
  · rw [hrest]
    exact .separated hsep hlist
  · rw [hrest] at hlist
    have hkinds : (nextKind s.rest).isSeparator = false ∧
        Grammar.startsOperand (nextKind s.rest) = false := by
      obtain hk | hk | hk | hk := closes_iff.mp hcloses
      all_goals
        rw [hk]
        exact ⟨rfl, rfl⟩
    obtain ⟨rfl, rfl⟩ := hlist.eq_nil hkinds.1 hkinds.2
    exact .nil

mutual

theorem expr_sound (greedy : Prop) (s : TokenStream) {r : Step s.size Expr}
    (h : (expr s).outcome = .ok r) : Expression greedy s.rest r.value.bare r.next.rest := by
  rw [expr, Run.outcome_entering] at h
  split at h
  · next name hname =>
    obtain ⟨hrest, hident, hlt⟩ := look_take?_eq_some hname
    rw [hrest]
    dsimp only at h
    split at h
    · obtain ⟨r', hr', h⟩ := Run.bind_eq_ok.mp h
      obtain rfl := Except.ok.inj h
      simpa using binding_sound greedy hident name.next.look hr'
    · obtain ⟨r', hr', h⟩ := Run.bind_eq_ok.mp h
      obtain rfl := Except.ok.inj h
      obtain ⟨ops, hops, hvalue, -⟩ := postfixes_sound greedy _ _ name.next.look.building hr'
      rw [hvalue]
      exact .operand (.applied (.name hident) (by simpa using hops) nofun)
  · obtain ⟨_, hoperand, -⟩ := operand_sound greedy s h
    exact .operand hoperand
termination_by 8 * s.size + 3
decreasing_by all_goals (try simp only [look_size, building_size]); omega

private theorem operand_sound (greedy : Prop) (s : TokenStream) {r : Step s.size Expr}
    (h : (operand s).outcome = .ok r) :
    ∃ dangling, Operand greedy s.rest r.value.bare dangling r.next.rest ∧
      Settled dangling r.next.rest := by
  rw [operand, Run.outcome_entering] at h
  split at h
  · next opening hopening =>
    obtain ⟨hrest, hkind, hlt⟩ := look_take?_eq_some hopening
    obtain ⟨r', hr', h⟩ := Run.bind_eq_ok.mp h
    obtain rfl := Except.ok.inj h
    rw [hrest]
    exact bracketType_sound greedy hkind _ opening.next hr'
  · next caret _ hcaret =>
    obtain ⟨hrest, hkind, hlt⟩ := look_take?_eq_some hcaret
    obtain ⟨elem, helem, h⟩ := Run.bind_eq_ok.mp h
    obtain rfl := Except.ok.inj h
    obtain ⟨dangling, hoperand, hsettled⟩ := operand_sound greedy caret.next helem
    rw [hrest, finish_value, bare_built]
    exact ⟨dangling, .pointer hkind hoperand, hsettled⟩
  · next name _ _ hname =>
    obtain ⟨hrest, hident, hlt⟩ := look_take?_eq_some hname
    obtain ⟨r', hr', h⟩ := Run.bind_eq_ok.mp h
    obtain rfl := Except.ok.inj h
    obtain ⟨ops, hops, hvalue, hsettled⟩ := postfixes_sound greedy _ _ name.next.building hr'
    rw [hrest, hvalue]
    exact ⟨false, .applied (.name hident) hops nofun, hsettled⟩
  · obtain ⟨first, hfirst, h⟩ := Run.bind_eq_ok.mp h
    obtain ⟨r', hr', h⟩ := Run.bind_eq_ok.mp h
    obtain rfl := Except.ok.inj h
    have hlt := first.shorter
    obtain ⟨dangling, hprimary, hclosed⟩ := primary_sound greedy s hfirst
    obtain ⟨ops, hops, hvalue, hsettled⟩ := postfixes_sound greedy _ _ first.next hr'
    -- Behind an operand that dangles stands no operator, so that none was read.
    have hnil (hd : dangling = true) : ops = [] :=
      hops.eq_nil (hclosed hd).lparen (hclosed hd).dot
    rw [hvalue]
    refine ⟨_, .applied hprimary hops fun _ => hnil, hsettled.lparen, hsettled.dot, fun hd => ?_⟩
    obtain ⟨hdangling, -⟩ := Bool.and_eq_true_iff.mp hd
    rw [← hops.eq_of_nil (hnil hdangling)]
    exact (hclosed hdangling).lbrace rfl
termination_by 8 * s.size + 2
decreasing_by all_goals (try simp only [building_size]); omega

private theorem ascription_sound (greedy : Prop) (s : TokenStream) {r : Step (s.size + 1) Expr}
    (h : (ascription s).outcome = .ok r) :
    Ascription greedy s.rest r.value.bare r.next.rest ∧
      (nextKind r.next.rest ≠ .colon → nextKind r.next.rest ≠ .assign →
        ∃ dangling, Operand greedy s.rest r.value.bare dangling r.next.rest) := by
  rw [ascription, Run.outcome_entering] at h
  split at h
  · next hkind =>
    obtain rfl := Except.ok.inj h
    rw [look_kind, kind_eq] at hkind
    simp only [look_rest]
    exact ⟨.none, fun hcolon hassign => by simp [hcolon, hassign] at hkind⟩
  · obtain ⟨r', hr', h⟩ := Run.bind_eq_ok.mp h
    obtain rfl := Except.ok.inj h
    obtain ⟨dangling, hoperand, -⟩ := operand_sound greedy s.look hr'
    rw [look_rest] at hoperand
    exact ⟨.some hoperand, fun _ _ => ⟨dangling, hoperand⟩⟩
termination_by 8 * s.size + 3
decreasing_by all_goals (try simp only [look_size]); omega

private theorem binding_sound (greedy : Prop) {name : Token} (hname : name.kind = .ident)
    (s : TokenStream) {r : Step s.size Expr} (h : (binding name s).outcome = .ok r) :
    Expression greedy (name :: s.rest) r.value.bare r.next.rest := by
  rw [binding, Run.outcome_entering] at h
  split at h
  · cases h
  · next colon hcolon =>
    obtain ⟨hrest, hfirst⟩ := take?_eq_some hcolon
    have hlt := colon.shorter
    obtain ⟨typed, htyped, h⟩ := Run.bind_eq_ok.mp h
    have hlt' := typed.shorter
    obtain ⟨hascription, htype⟩ := ascription_sound greedy colon.next htyped
    rw [hrest]
    dsimp only at h
    split at h
    · next second hsecond =>
      obtain ⟨hrest', hkind, hlt''⟩ := look_take?_eq_some hsecond
      obtain ⟨value, hvalue, h⟩ := Run.bind_eq_ok.mp h
      obtain rfl := Except.ok.inj h
      rw [finish_value, bare_built]
      exact .constant hname hfirst (hrest' ▸ hascription) hkind
        (expr_sound greedy second.next hvalue)
    · next equals _ hequals =>
      obtain ⟨hrest', hkind, hlt''⟩ := look_take?_eq_some hequals
      obtain ⟨value, hvalue, h⟩ := Run.bind_eq_ok.mp h
      obtain rfl := Except.ok.inj h
      rw [finish_value, bare_built]
      exact .declaration hname hfirst (hrest' ▸ hascription) hkind
        (expr_sound greedy equals.next hvalue)
    · next hnocolon hnoassign =>
      obtain rfl := Except.ok.inj h
      have hcolon' := nextKind_ne_of_take? hnocolon (by decide)
      have hassign' := nextKind_ne_of_take? hnoassign (by decide)
      rw [look_rest] at hcolon' hassign'
      obtain ⟨_, hoperand⟩ := htype hcolon' hassign'
      rw [finish_value, bare_built]
      exact .typed hname hfirst (by simpa [finish] using hoperand)
termination_by 8 * s.size
decreasing_by all_goals omega

theorem primary_sound (greedy : Prop) (s : TokenStream) {r : Step s.size Expr}
    (h : (primary s).outcome = .ok r) :
    ∃ dangling, Primary greedy s.rest r.value.bare dangling r.next.rest ∧
      (dangling = true → Settled true r.next.rest) := by
  rw [primary, Run.outcome_entering] at h
  split at h
  · next literal hliteral =>
    obtain ⟨hrest, hkind, -⟩ := look_take?_eq_some hliteral
    obtain rfl := Except.ok.inj h
    rw [hrest, finish_value, bare_built]
    exact ⟨false, .intLit hkind, nofun⟩
  · next opening _ hopening =>
    obtain ⟨hrest, hkind, hlt⟩ := look_take?_eq_some hopening
    obtain ⟨r', hr', h⟩ := Run.bind_eq_ok.mp h
    obtain rfl := Except.ok.inj h
    rw [hrest]
    exact parenthesised_sound greedy hkind _ opening.next hr'
  · next opening _ _ hopening =>
    obtain ⟨hrest, hkind, hlt⟩ := look_take?_eq_some hopening
    obtain ⟨r', hr', h⟩ := Run.bind_eq_ok.mp h
    obtain rfl := Except.ok.inj h
    rw [hrest]
    exact ⟨false, .block (block_sound greedy hkind _ opening.next hr'), nofun⟩
  · cases h
termination_by 8 * s.size + 1
decreasing_by all_goals omega

private theorem postfixes_sound (greedy : Prop) (start : Span) (e : Expr) (s : TokenStream)
    {r : Step (s.size + 1) Expr} (h : (postfixes start e s).outcome = .ok r) :
    ∃ ops, Operators greedy s.rest ops r.next.rest ∧
      r.value.bare = ops.foldl Operator.apply e.bare ∧ Settled false r.next.rest := by
  rw [postfixes, Run.outcome_entering] at h
  split at h
  · next opening hopening =>
    obtain ⟨hrest, hkind, hlt⟩ := look_take?_eq_some hopening
    obtain ⟨args, hargs, h⟩ := Run.bind_eq_ok.mp h
    have hlt' := args.shorter
    obtain ⟨r', hr', h⟩ := Run.bind_eq_ok.mp h
    obtain rfl := Except.ok.inj h
    have harguments := arguments_sound greedy hkind opening.next hargs
    obtain ⟨ops, hops, hvalue, hsettled⟩ := postfixes_sound greedy _ _ args.next.building hr'
    rw [hrest, hvalue]
    refine ⟨.call _ :: ops, .call harguments hops, ?_, hsettled⟩
    rw [bare_built, List.foldl_cons]
    rfl
  · next dot _ hdot =>
    obtain ⟨hrest, hkind, hlt⟩ := look_take?_eq_some hdot
    obtain ⟨member, hmember, h⟩ := Run.bind_eq_ok.mp h
    obtain ⟨hrest', hident, hlt'⟩ := expect_eq_ok hmember
    obtain ⟨r', hr', h⟩ := Run.bind_eq_ok.mp h
    obtain rfl := Except.ok.inj h
    obtain ⟨ops, hops, hvalue, hsettled⟩ := postfixes_sound greedy _ _ member.next.building hr'
    rw [hrest, hrest', hvalue]
    refine ⟨.member _ :: ops, .member hkind hident hops, ?_, hsettled⟩
    rw [bare_built, List.foldl_cons]
    rfl
  · next hnoparen hnodot =>
    obtain rfl := Except.ok.inj h
    refine ⟨[], by simpa using .nil, rfl, ?_, ?_, nofun⟩
    · exact nextKind_ne_of_take? hnoparen (by decide)
    · exact nextKind_ne_of_take? hnodot (by decide)
termination_by 8 * s.size
decreasing_by all_goals (try simp only [building_size]); omega

private theorem arguments_sound (greedy : Prop) {opening : Token}
    (hopening : opening.kind = .lparen)
    (s : TokenStream) {r : Step s.size (List Expr)} (h : (arguments s).outcome = .ok r) :
    Arguments greedy (opening :: s.rest) (r.value.map Expr.bare) r.next.rest := by
  rw [arguments, Run.outcome_entering] at h
  have hle := (s.skip isNewline).2
  obtain ⟨entries, hentries, h⟩ := Run.bind_eq_ok.mp h
  obtain ⟨closing, hclosing, h⟩ := Run.bind_eq_ok.mp h
  obtain rfl := Except.ok.inj h
  obtain ⟨hrest, hkind, -⟩ := expect_eq_ok hclosing
  have hlist := argumentEntries_sound greedy (s.skip isNewline).1 hentries
  exact .mk hopening (s.skip_skips isNewline).1 (hrest ▸ hlist) hkind
termination_by 8 * s.size + 5
decreasing_by all_goals omega

theorem argumentEntries_sound (greedy : Prop) (s : TokenStream)
    {r : Step (s.size + 1) (List Expr)} (h : (argumentEntries s).outcome = .ok r) :
    Entries greedy s.rest (r.value.map Expr.bare) r.next.rest := by
  rw [argumentEntries, Run.outcome_entering] at h
  split at h
  · obtain rfl := Except.ok.inj h
    simpa using .none
  · obtain ⟨first, hfirst, h⟩ := Run.bind_eq_ok.mp h
    have hlt : first.next.size < s.size := by simpa using first.shorter
    have hexpr := expr_sound greedy s.look hfirst
    rw [look_rest] at hexpr
    have hskips := (first.next.skip_skips isNewline).1
    have hle := (first.next.skip isNewline).2
    dsimp only at h
    split at h
    · obtain rfl := Except.ok.inj h
      exact .last hexpr hskips
    · next comma hcomma =>
      obtain ⟨hrest, hkind⟩ := take?_eq_some hcomma
      have hlt' := comma.shorter
      have hle' := (comma.next.skip isNewline).2
      obtain ⟨others, hothers, h⟩ := Run.bind_eq_ok.mp h
      obtain rfl := Except.ok.inj h
      exact .more hexpr (hrest ▸ hskips) hkind (comma.next.skip_skips isNewline).1
        (argumentEntries_sound greedy _ hothers)
termination_by 8 * s.size + 4
decreasing_by all_goals (try simp only [look_size]); omega

private theorem parenthesised_sound (greedy : Prop) {opening : Token}
    (hopening : opening.kind = .lparen) (start : Span) (s : TokenStream) {r : Step s.size Expr}
    (h : (parenthesised start s).outcome = .ok r) :
    ∃ dangling, Primary greedy (opening :: s.rest) r.value.bare dangling r.next.rest ∧
      (dangling = true → Settled true r.next.rest) := by
  rw [parenthesised, Run.outcome_entering] at h
  obtain ⟨args, hargs, h⟩ := Run.bind_eq_ok.mp h
  have hlt := args.shorter
  have harguments := arguments_sound greedy hopening s hargs
  dsimp only at h
  split at h
  · next arrow harrow =>
    obtain ⟨hrest, hkind, hlt'⟩ := look_take?_eq_some harrow
    rw [hrest] at harguments
    obtain ⟨_, hdeclared, h⟩ := Run.bind_eq_ok.mp h
    obtain ⟨ret, hret, h⟩ := Run.bind_eq_ok.mp h
    have hlt'' := ret.shorter
    obtain ⟨inner, htype, hsettled⟩ := operand_sound greedy arrow.next hret
    have hparams := requireDeclarations_eq_ok hdeclared
    split at h
    · next hnobrace =>
      obtain rfl := Except.ok.inj h
      have hbrace := nextKind_ne_of_take? hnobrace (by decide)
      rw [look_rest] at hbrace
      simp only [finish_value, bare_built, finish_rest, look_rest]
      exact ⟨true, .procedureType harguments hparams hkind htype, fun _ =>
        ⟨hsettled.lparen, hsettled.dot, fun _ => hbrace⟩⟩
    · next brace hbrace =>
      obtain ⟨hrest', hkind', hlt₃⟩ := look_take?_eq_some hbrace
      obtain ⟨body, hbody, h⟩ := Run.bind_eq_ok.mp h
      obtain rfl := Except.ok.inj h
      have hblock := block_sound greedy hkind' _ brace.next hbody
      -- A return type that dangles would have taken the block for itself.
      have hinner : inner = false := by
        cases inner with
        | false => rfl
        | true => exact absurd (by rw [hrest']; exact hkind') (hsettled.lbrace rfl)
      rw [finish_value, bare_built]
      exact ⟨false, .procedure harguments hparams hkind htype (hrest' ▸ hblock) fun _ => hinner,
        nofun⟩
  · exact ⟨false, grouped_sound h (by simpa using harguments), nofun⟩
termination_by 8 * s.size + 6
decreasing_by all_goals omega

private theorem block_sound (greedy : Prop) {opening : Token} (hopening : opening.kind = .lbrace)
    (start : Span) (s : TokenStream) {r : Step s.size Expr} (h : (block start s).outcome = .ok r) :
    Block greedy (opening :: s.rest) r.value.bare r.next.rest := by
  rw [block, Run.outcome_entering] at h
  obtain ⟨entries, hentries, h⟩ := Run.bind_eq_ok.mp h
  obtain rfl := Except.ok.inj h
  obtain ⟨closing, hkind, hlist⟩ := blockEntries_sound greedy s hentries
  rw [finish_value, bare_built]
  exact .mk hopening hlist hkind
termination_by 8 * s.size + 5
decreasing_by all_goals omega

private theorem blockEntries_sound (greedy : Prop) (s : TokenStream) {r : Step s.size (List Expr)}
    (h : (blockEntries s).outcome = .ok r) :
    ∃ closing, closing.kind = .rbrace ∧
      Sequence greedy s.rest (r.value.map Expr.bare) (closing :: r.next.rest) := by
  rw [blockEntries, Run.outcome_entering] at h
  have hskips := (s.skip_skips TokenKind.isSeparator).1
  have hle := (s.skip TokenKind.isSeparator).2
  dsimp only at h
  split at h
  · next closing hclosing =>
    obtain ⟨hrest, hkind⟩ := take?_eq_some hclosing
    obtain rfl := Except.ok.inj h
    exact ⟨closing.token, hkind, .empty (hrest ▸ hskips)⟩
  · obtain ⟨first, hfirst, h⟩ := Run.bind_eq_ok.mp h
    have hlt := first.shorter
    obtain ⟨u, hu, h⟩ := Run.bind_eq_ok.mp h
    have hle' := u.2
    have hexpr := expr_sound greedy _ hfirst
    rw [look_kind, kind_eq] at h
    split at h
    case h_4 =>
      obtain ⟨others, hothers, h⟩ := Run.bind_eq_ok.mp h
      obtain rfl := Except.ok.inj h
      obtain ⟨closing, hkind, hlist⟩ := blockEntries_sound greedy u.1.look hothers
      rw [look_rest] at hlist
      exact ⟨closing, hkind, .cons hskips hexpr (rest_of_endItem hu hlist)⟩
    all_goals cases h
termination_by 8 * s.size + 4
decreasing_by all_goals (try simp only [look_size]); omega

private theorem bracketType_sound (greedy : Prop) {opening : Token}
    (hopening : opening.kind = .lbracket) (start : Span) (s : TokenStream) {r : Step s.size Expr}
    (h : (bracketType start s).outcome = .ok r) :
    ∃ dangling, Operand greedy (opening :: s.rest) r.value.bare dangling r.next.rest ∧
      Settled dangling r.next.rest := by
  rw [bracketType, Run.outcome_entering] at h
  dsimp only at h
  split at h
  · next closing hclosing =>
    obtain ⟨hrest, hkind, hlt⟩ := look_take?_eq_some hclosing
    obtain ⟨elem, helem, h⟩ := Run.bind_eq_ok.mp h
    obtain rfl := Except.ok.inj h
    obtain ⟨dangling, hoperand, hsettled⟩ := operand_sound greedy closing.next helem
    rw [hrest, finish_value, bare_built]
    exact ⟨dangling, .slice hopening hkind hoperand, hsettled⟩
  · next caret _ hcaret =>
    obtain ⟨hrest, hkind, hlt⟩ := look_take?_eq_some hcaret
    obtain ⟨closing, hclosing, h⟩ := Run.bind_eq_ok.mp h
    obtain ⟨hrest', hkind', hlt'⟩ := expect_eq_ok hclosing
    obtain ⟨elem, helem, h⟩ := Run.bind_eq_ok.mp h
    obtain rfl := Except.ok.inj h
    obtain ⟨dangling, hoperand, hsettled⟩ := operand_sound greedy closing.next helem
    rw [hrest, hrest', finish_value, bare_built]
    exact ⟨dangling, .multipointer hopening hkind hkind' hoperand, hsettled⟩
  · next hnobracket hnocaret =>
    have hunmarked := nextKind_ne_of_take? hnocaret (by decide)
    rw [look_rest] at hunmarked
    obtain ⟨length, hlength, h⟩ := Run.bind_eq_ok.mp h
    have hlt : length.next.size < s.size := by simpa using length.shorter
    obtain ⟨closing, hclosing, h⟩ := Run.bind_eq_ok.mp h
    obtain ⟨hrest', hkind', hlt'⟩ := expect_eq_ok hclosing
    obtain ⟨elem, helem, h⟩ := Run.bind_eq_ok.mp h
    obtain rfl := Except.ok.inj h
    obtain ⟨_, hlen, -⟩ := operand_sound greedy s.look hlength
    obtain ⟨dangling, hoperand, hsettled⟩ := operand_sound greedy closing.next helem
    rw [look_rest, hrest'] at hlen
    rw [finish_value, bare_built]
    exact ⟨dangling, .array hopening hunmarked hlen hkind' hoperand, hsettled⟩
termination_by 8 * s.size + 4
decreasing_by all_goals (try simp only [look_size]); omega

end

/-- The items of a file that is parsed without an error form a sequence. -/
theorem items_sound (greedy : Prop) (s : TokenStream) (h : (items s).failed = false) :
    ∃ w, nextKind w = .endOfFile ∧
      Sequence greedy s.rest ((items s).items.map Expr.bare) w := by
  have hskips := (s.skip_skips TokenKind.isSeparator).1
  have hle := (s.skip TokenKind.isSeparator).2
  rw [items] at h ⊢
  dsimp only at h ⊢
  split at h
  · next hkind =>
    rw [if_pos hkind]
    rw [kind_eq] at hkind
    exact ⟨_, by simpa using hkind, .empty hskips⟩
  · next hkind =>
    rw [if_neg hkind]
    split at h
    · cases h
    · next first hfirst =>
      have hexpr := expr_sound greedy _ hfirst
      have hlt := first.shorter
      split at h
      · cases h
      · next u hu hend =>
        obtain ⟨w, hw, hlist⟩ := items_sound greedy u h
        exact ⟨w, hw, .cons hskips hexpr (rest_of_endItem hend hlist)⟩
termination_by s.size
decreasing_by omega

end Keywordless.Syntax
