import Keywordless.Proofs.ParserMoves

/-!
# Progress of a parse

A parse takes the tokens in their order and each of them at most once, and a loop that goes round
again took a token before. So it ends soon: the tokens that it takes pay for the rules that it
enters, six for each token, whether it succeeds or not.
-/

namespace Keywordless

namespace TokenStream

private theorem skip_rest_eq_dropWhile (s : TokenStream) (p : TokenKind → Bool) :
    (s.skip p).1.rest = s.rest.dropWhile fun t => p t.kind := by
  have hfrom (rest : List Token) (s : TokenStream) :
      (skipFrom p rest s).rest = rest.dropWhile fun t => p t.kind := by
    induction rest generalizing s with
    | nil => exact look_rest _
    | cons t rest ih =>
      simp only [skipFrom, List.dropWhile_cons]
      split
      · exact ih _
      · exact look_rest _
  exact hfrom s.rest s

private theorem skipped_append_rest (s : TokenStream) (p : TokenKind → Bool) :
    s.skipped p ++ (s.skip p).1.rest = s.rest := by
  rw [skip_rest_eq_dropWhile, skipped, List.takeWhile_append_dropWhile]

private theorem skip_suffix {s : TokenStream} {p : TokenKind → Bool}
    {t : { t : TokenStream // t.size ≤ s.size }} (h : s.skip p = t) : t.1.rest <:+ s.rest := by
  rw [← h, ← skipped_append_rest s p]
  exact List.suffix_append _ _

private theorem ordinary_skipped (s : TokenStream) {p : TokenKind → Bool}
    (hp : p .endOfFile = false) : ∀ t ∈ s.skipped p, t.kind ≠ .endOfFile := by
  intro t ht hkind
  have := List.mem_takeWhile_imp ht
  rw [hkind, hp] at this
  cases this

@[simp] theorem unexpected_rest (s : TokenStream) (e : Expected) :
    (s.unexpected e).rest = s.rest := by
  simp only [unexpected]
  split
  · exact look_rest s
  · split
    all_goals exact look_rest s

/-- Between the two streams tokens were taken. -/
def Gained (before after : TokenStream) : Prop := ∃ taken ≠ [], before.rest = taken ++ after.rest

private theorem Gained.of_suffix {before after : TokenStream} (h : after.rest <:+ before.rest)
    (hlt : after.size < before.size) : Gained before after := by
  obtain ⟨taken, htaken⟩ := h
  refine ⟨taken, ?_, htaken.symm⟩
  rintro rfl
  simp only [size, ← htaken] at hlt
  exact absurd hlt (lt_irrefl _)

end TokenStream

namespace Syntax

open TokenStream

namespace ParseEvent

def token? : ParseEvent → Option Token
  | took t => some t
  | _ => none

def loop? : ParseEvent → Option Loop
  | again loop _ _ => some loop
  | _ => none

def isEntry : ParseEvent → Bool
  | entered => true
  | _ => false

/-- The tokens that were taken, each as often as it was taken. -/
def taken (events : List ParseEvent) : List Token := events.filterMap token?

def entries (events : List ParseEvent) : Nat := events.countP isEntry

def Forward : ParseEvent → Prop
  | again _ before after => Gained before after
  | _ => True

private theorem taken_append (first second : List ParseEvent) :
    taken (first ++ second) = taken first ++ taken second :=
  List.filterMap_append

private theorem entries_append (first second : List ParseEvent) :
    entries (first ++ second) = entries first + entries second :=
  List.countP_append

private theorem taken_took (tokens : List Token) : taken (tokens.map took) = tokens := by
  simp [taken, List.filterMap_map, Function.comp_def, token?]

private theorem entries_took (tokens : List Token) : entries (tokens.map took) = 0 := by
  simp [entries, List.countP_map, Function.comp_def, isEntry]

end ParseEvent

namespace Run

open ParseEvent

variable {α β : Type}

private def left (rest : α → List Token) : Except TokenStream α → List Token
  | .ok a => rest a
  | .error stopped => stopped.rest

private def owed (gain loss : Int) : Except TokenStream α → Int
  | .ok _ => gain
  | .error _ => loss

/-- The step reads on from the tokens `w`. The tokens that it takes pay for the rules that it
enters, up to `gain` where it succeeds and `loss` where it fails; a negative one is to spare. -/
private structure Advances (w : List Token) (rest : α → List Token) (gain loss : Int) (x : Run α) :
    Prop where
  reads : taken x.events ++ left rest x.outcome = w
  ordinary : ∀ t ∈ taken x.events, t.kind ≠ .endOfFile
  forward : ∀ event ∈ x.events, event.Forward
  paid : entries x.events ≤ 6 * (taken x.events).length + owed gain loss x.outcome

private theorem owed_mono {gain loss gain' loss' : Int} (hgain : gain ≤ gain')
    (hloss : loss ≤ loss') (r : Except TokenStream α) : owed gain loss r ≤ owed gain' loss' r := by
  cases r with
  | ok a => exact hgain
  | error stopped => exact hloss

private theorem owed_sub (gain loss c : Int) (r : Except TokenStream α) :
    owed (gain - c) (loss - c) r = owed gain loss r - c := by
  cases r <;> rfl

private theorem bind_of_ok {x : Run α} {a : α} (h : x.outcome = .ok a) (next : α → Run β) :
    x >>= next =
      { events := x.events ++ (next a).events, outcome := (next a).outcome } := by
  obtain ⟨events, outcome⟩ := x
  cases h
  rfl

private theorem bind_of_error {x : Run α} {stopped : TokenStream}
    (h : x.outcome = .error stopped) (next : α → Run β) :
    x >>= next = { events := x.events, outcome := .error stopped } := by
  obtain ⟨events, outcome⟩ := x
  cases h
  rfl

private theorem after_append (first second : List Token) (x : Run α) :
    x.after (first ++ second) = (x.after second).after first := by
  simp [after]

namespace Advances

variable {w : List Token} {rest : α → List Token} {rest' : β → List Token}
  {gain loss gain' loss' : Int} {x : Run α}

/-- Two steps, the second of which reads on where the first one stopped. -/
private theorem append {y : Run β} {a : α} (hx : x.Advances w rest gain loss)
    (ha : x.outcome = .ok a) (hy : y.Advances (rest a) rest' (gain' - gain) (loss' - gain)) :
    Advances w rest' gain' loss' { events := x.events ++ y.events, outcome := y.outcome } := by
  obtain ⟨hreads, hordinary, hforward, hpaid⟩ := hx
  obtain ⟨hreads', hordinary', hforward', hpaid'⟩ := hy
  rw [ha] at hreads hpaid
  refine ⟨?_, ?_, ?_, ?_⟩
  · rw [taken_append, List.append_assoc, hreads', ← hreads]
    rfl
  · rw [taken_append]
    exact fun t ht => (List.mem_append.mp ht).elim (hordinary t) (hordinary' t)
  · exact fun event h => (List.mem_append.mp h).elim (hforward event) (hforward' event)
  · rw [taken_append, entries_append, List.length_append]
    rw [owed_sub] at hpaid'
    change (entries x.events : Int) ≤ 6 * (taken x.events).length + gain at hpaid
    push_cast
    omega

private theorem suffix {a : α} (hx : x.Advances w rest gain loss) (ha : x.outcome = .ok a) :
    rest a <:+ w := by
  rw [← hx.reads, ha]
  exact List.suffix_append _ _

private theorem bind {next : α → Run β} (hx : x.Advances w rest gain loss) (hloss : loss ≤ loss')
    (hnext : ∀ a, rest a <:+ w → (next a).Advances (rest a) rest' (gain' - gain) (loss' - gain)) :
    (x >>= next).Advances w rest' gain' loss' := by
  cases hout : x.outcome with
  | ok a =>
    rw [bind_of_ok hout]
    exact hx.append hout (hnext a (hx.suffix hout))
  | error stopped =>
    rw [bind_of_error hout]
    obtain ⟨hreads, hordinary, hforward, hpaid⟩ := hx
    rw [hout] at hreads hpaid
    exact ⟨hreads, hordinary, hforward, hpaid.trans (Int.add_le_add_left hloss _)⟩

/-- After a step that fails, what it owes is owed by the result that takes its place. -/
private theorem settled {stopped : TokenStream} {b : β} (hx : x.Advances w rest gain loss)
    (hout : x.outcome = .error stopped) (hrest : rest' b = stopped.rest) (hloss : loss ≤ gain') :
    Advances w rest' gain' loss' { events := x.events, outcome := .ok b } := by
  obtain ⟨hreads, hordinary, hforward, hpaid⟩ := hx
  rw [hout] at hreads hpaid
  exact ⟨(congrArg (taken x.events ++ ·) hrest).trans hreads, hordinary, hforward,
    hpaid.trans (Int.add_le_add_left hloss _)⟩

private theorem answered {a : α} {b : β} (hx : x.Advances w rest gain loss)
    (hout : x.outcome = .ok a) (hrest : rest' b = rest a) (hgain : gain ≤ gain') :
    Advances w rest' gain' loss' { events := x.events, outcome := .ok b } := by
  obtain ⟨hreads, hordinary, hforward, hpaid⟩ := hx
  rw [hout] at hreads hpaid
  exact ⟨(congrArg (taken x.events ++ ·) hrest).trans hreads, hordinary, hforward,
    hpaid.trans (Int.add_le_add_left hgain _)⟩

private theorem mono (hx : x.Advances w rest gain loss) (hgain : gain ≤ gain')
    (hloss : loss ≤ loss') : x.Advances w rest gain' loss' where
  reads := hx.reads
  ordinary := hx.ordinary
  forward := hx.forward
  paid := hx.paid.trans (Int.add_le_add_left (owed_mono hgain hloss _) _)

private theorem pure {a : α} (hrest : rest a = w) (hgain : 0 ≤ gain) :
    (Pure.pure a : Run α).Advances w rest gain loss where
  reads := hrest
  ordinary _ h := absurd h List.not_mem_nil
  forward _ h := absurd h List.not_mem_nil
  paid := by simpa [entries, taken, Pure.pure, owed] using hgain

private theorem stop {stopped : TokenStream} (hrest : stopped.rest = w) (hloss : 0 ≤ loss) :
    (Run.stop stopped : Run α).Advances w rest gain loss where
  reads := hrest
  ordinary _ h := absurd h List.not_mem_nil
  forward _ h := absurd h List.not_mem_nil
  paid := by simpa [entries, taken, Run.stop, owed] using hloss

private theorem entering (hx : x.Advances w rest (gain - 1) (loss - 1)) :
    x.entering.Advances w rest gain loss where
  reads := hx.reads
  ordinary := hx.ordinary
  forward event h := by
    rcases List.mem_cons.mp h with rfl | h
    · trivial
    · exact hx.forward event h
  paid := by
    have hpaid := hx.paid
    rw [owed_sub] at hpaid
    have hentries : entries x.entering.events = entries x.events + 1 :=
      List.countP_cons_of_pos rfl
    rw [hentries]
    change _ ≤ 6 * ((taken x.events).length : Int) + owed gain loss x.outcome
    push_cast
    omega

private theorem again {loop : Loop} {before after : TokenStream} (hgained : Gained before after)
    (hx : x.Advances w rest gain loss) :
    (x.again loop before after).Advances w rest gain loss where
  reads := hx.reads
  ordinary := hx.ordinary
  forward event h := by
    rcases List.mem_cons.mp h with rfl | h
    · exact hgained
    · exact hx.forward event h
  paid := hx.paid

private theorem tokens {tokens : List Token} (hordinary : ∀ t ∈ tokens, t.kind ≠ .endOfFile) :
    Advances (tokens ++ w) (fun _ : Unit => w) (-6 * tokens.length) 0
      { events := tokens.map .took, outcome := .ok () } where
  reads := by rw [taken_took]; rfl
  ordinary := by rwa [taken_took]
  forward := by simp [Forward]
  paid := by
    rw [taken_took, entries_took]
    change ((0 : Nat) : Int) ≤ 6 * tokens.length + -6 * tokens.length
    omega

private theorem after {tokens : List Token} (hordinary : ∀ t ∈ tokens, t.kind ≠ .endOfFile)
    (hx : x.Advances w rest gain loss) :
    (x.after tokens).Advances (tokens ++ w) rest (gain - 6 * tokens.length)
      (loss - 6 * tokens.length) := by
  refine (Advances.tokens hordinary).append rfl (hx.mono ?_ ?_)
  · omega
  · omega

private theorem taking {s : TokenStream} {kind : TokenKind} {token : Taken s}
    (h : s.take? kind = some token) (hkind : kind ≠ .endOfFile) (hnext : w = token.next.rest)
    (hx : x.Advances w rest gain loss) :
    (x.after [token.token]).Advances s.rest rest (gain - 6) (loss - 6) := by
  obtain ⟨hrest, rfl⟩ := take?_eq_some h
  subst hnext
  rw [hrest]
  exact hx.after (List.forall_mem_singleton.mpr hkind)

private theorem skipping {s : TokenStream} {p : TokenKind → Bool}
    {t : { t : TokenStream // t.size ≤ s.size }} (h : s.skip p = t) (hp : p .endOfFile = false)
    (hx : x.Advances t.1.rest rest gain loss) :
    (x.after (s.skipped p)).Advances s.rest rest gain loss := by
  subst h
  rw [← s.skipped_append_rest p]
  exact (hx.after (s.ordinary_skipped hp)).mono (by omega) (by omega)

private theorem returning {f : α → β} (hx : x.Advances w rest gain loss)
    (hrest : ∀ a, rest' (f a) = rest a) (hgain : gain ≤ gain') (hloss : loss ≤ loss') :
    (x >>= fun a => Pure.pure (f a)).Advances w rest' gain' loss' :=
  hx.bind hloss fun a _ => .pure (hrest a) (sub_nonneg.mpr hgain)

private theorem taken_pure {s : TokenStream} {kind : TokenKind} {token : Taken s} {a : α}
    (h : s.take? kind = some token) (hkind : kind ≠ .endOfFile) (hrest : rest a = token.next.rest)
    (hgain : -6 ≤ gain) :
    ((Pure.pure a : Run α).after [token.token]).Advances s.rest rest gain loss := by
  have hend : (Pure.pure a : Run α).Advances token.next.rest rest 0 (loss + 6) :=
    .pure hrest le_rfl
  exact (hend.taking h hkind rfl).mono hgain (by omega)

end Advances

private theorem expect_advances (s : TokenStream) {kind : TokenKind} (hkind : kind ≠ .endOfFile)
    (e : Expected) : (expect s kind e).Advances s.rest (·.next.rest) (-6) 0 := by
  rw [expect]
  split
  · next token htoken =>
    rw [← look_rest s]
    exact .taken_pure htoken hkind rfl le_rfl
  · exact .stop (unexpected_rest s e) le_rfl

private theorem endItem_advances (s : TokenStream) :
    (endItem s).Advances s.rest (·.1.rest) 0 0 := by
  rw [endItem]
  split
  · next token htoken =>
    rw [← look_rest s]
    exact .taken_pure htoken (by decide) rfl (by decide)
  · next token _ htoken =>
    rw [← look_rest s]
    exact .taken_pure htoken (by decide) rfl (by decide)
  · split
    case h_5 => exact .stop (unexpected_rest s _) le_rfl
    all_goals exact .pure (look_rest s) le_rfl

private theorem requireDeclarations_advances (s : TokenStream) (list : List Expr) :
    (requireDeclarations s list).Advances s.rest (fun _ => s.rest) 0 0 := by
  rw [requireDeclarations]
  split
  · exact .stop rfl le_rfl
  · exact .pure rfl le_rfl

private theorem grouped_advances {bound : Nat} (t : TokenStream) (span : Span)
    (entries : List Expr) (hlt : t.size < bound) :
    (grouped t span entries hlt).Advances t.rest (·.next.rest) 0 0 := by
  unfold grouped
  split
  · exact .stop rfl le_rfl
  · next first others =>
    split
    · exact .pure rfl le_rfl
    · exact .returning (requireDeclarations_advances t _) (fun _ => rfl) le_rfl le_rfl

-- Entering a rule costs one and a token pays six. An operand can hand its stream through five rules
-- before a token is taken, and a rule that fails may have entered some that took nothing.
mutual

private theorem expr_advances (s : TokenStream) :
    (expr s).Advances s.rest (·.next.rest) (-2) 3 := by
  rw [expr]
  refine .entering ?_
  split
  · next name hname =>
    have hlt : name.next.size < s.size := by simpa using name.shorter
    rw [← look_rest s]
    dsimp only
    split
    · exact .returning (.taking hname (by decide) (look_rest _)
        (binding_advances name.token name.next.look)) (fun _ => rfl) (by decide) (by decide)
    · exact .returning (.taking hname (by decide) (look_rest _)
        (postfixes_advances _ _ name.next.look.building)) (fun _ => rfl) (by decide) (by decide)
  · exact .mono (operand_advances s) (by decide) (by decide)
termination_by 8 * s.size + 3
decreasing_by all_goals (try simp only [look_size, building_size]); omega

private theorem operand_advances (s : TokenStream) :
    (operand s).Advances s.rest (·.next.rest) (-3) 2 := by
  rw [operand]
  refine .entering ?_
  split
  · next opening hopening =>
    have hlt : opening.next.size < s.size := by simpa using opening.shorter
    rw [← look_rest s]
    exact .returning (.taking hopening (by decide) rfl (bracketType_advances _ opening.next))
      (fun _ => rfl) (by decide) (by decide)
  · next caret _ hcaret =>
    have hlt : caret.next.size < s.size := by simpa using caret.shorter
    rw [← look_rest s]
    exact .returning (.taking hcaret (by decide) rfl (operand_advances caret.next))
      (fun _ => rfl) (by decide) (by decide)
  · next name _ _ hname =>
    have hlt : name.next.size < s.size := by simpa using name.shorter
    rw [← look_rest s]
    exact .returning (.taking hname (by decide) rfl (postfixes_advances _ _ name.next.building))
      (fun _ => rfl) (by decide) (by decide)
  · refine .bind (primary_advances s) (by decide) fun first _ => ?_
    have hlt := first.shorter
    exact .returning (postfixes_advances _ _ first.next) (fun _ => rfl) (by decide) (by decide)
termination_by 8 * s.size + 2
decreasing_by all_goals (try simp only [building_size]); omega

private theorem ascription_advances (s : TokenStream) :
    (ascription s).Advances s.rest (·.next.rest) 1 3 := by
  rw [ascription, ← look_rest s]
  refine .entering ?_
  split
  · exact .pure rfl (by decide)
  · exact .returning (operand_advances s.look) (fun _ => rfl) (by decide) (by decide)
termination_by 8 * s.size + 3
decreasing_by all_goals (try simp only [look_size]); omega

private theorem binding_advances (name : Token) (s : TokenStream) :
    (binding name s).Advances s.rest (·.next.rest) (-4) 1 := by
  rw [binding]
  refine .entering ?_
  split
  · exact .stop rfl (by decide)
  · next colon hcolon =>
    have hlt := colon.shorter
    refine .bind (.taking hcolon (by decide) rfl (ascription_advances colon.next)) (by decide)
      fun typed _ => ?_
    have hlt' := typed.shorter
    rw [← look_rest typed.next]
    dsimp only
    split
    · next second hsecond =>
      have hlt'' : second.next.size < typed.next.size := by simpa using second.shorter
      exact .returning (.taking hsecond (by decide) rfl (expr_advances second.next))
        (fun _ => rfl) (by decide) (by decide)
    · next equals _ hequals =>
      have hlt'' : equals.next.size < typed.next.size := by simpa using equals.shorter
      exact .returning (.taking hequals (by decide) rfl (expr_advances equals.next))
        (fun _ => rfl) (by decide) (by decide)
    · exact .pure rfl (by decide)
termination_by 8 * s.size
decreasing_by all_goals omega

private theorem primary_advances (s : TokenStream) :
    (primary s).Advances s.rest (·.next.rest) (-5) 1 := by
  rw [primary]
  refine .entering ?_
  split
  · next literal hliteral =>
    rw [← look_rest s]
    exact .taken_pure hliteral (by decide) rfl (by decide)
  · next opening _ hopening =>
    have hlt : opening.next.size < s.size := by simpa using opening.shorter
    rw [← look_rest s]
    exact .returning (.taking hopening (by decide) rfl (parenthesised_advances _ opening.next))
      (fun _ => rfl) (by decide) (by decide)
  · next opening _ _ hopening =>
    have hlt : opening.next.size < s.size := by simpa using opening.shorter
    rw [← look_rest s]
    exact .returning (.taking hopening (by decide) rfl (block_advances _ opening.next))
      (fun _ => rfl) (by decide) (by decide)
  · exact .stop (unexpected_rest s _) (by decide)
termination_by 8 * s.size + 1
decreasing_by all_goals omega

private theorem postfixes_advances (start : Span) (e : Expr) (s : TokenStream) :
    (postfixes start e s).Advances s.rest (·.next.rest) 1 0 := by
  rw [postfixes, ← look_rest s]
  refine .entering ?_
  split
  · next opening hopening =>
    have hlt : opening.next.size < s.size := by simpa using opening.shorter
    refine .bind (.taking hopening (by decide) rfl (arguments_advances opening.next)) (by decide)
      fun args hargs => ?_
    have hlt' := args.shorter
    have hgained : Gained s args.next.building :=
      .of_suffix (look_rest s ▸ hargs) (by simp only [building_size]; omega)
    exact .returning (.again hgained (postfixes_advances _ _ args.next.building)) (fun _ => rfl)
      (by decide) (by decide)
  · next dot _ hdot =>
    have hlt : dot.next.size < s.size := by simpa using dot.shorter
    refine .bind (.taking hdot (by decide) rfl (expect_advances dot.next (by decide) _)) (by decide)
      fun member hmember => ?_
    have hlt' : member.next.size < dot.next.size := by simpa using member.shorter
    have hgained : Gained s member.next.building :=
      .of_suffix (look_rest s ▸ hmember) (by simp only [building_size]; omega)
    exact .returning (.again hgained (postfixes_advances _ _ member.next.building)) (fun _ => rfl)
      (by decide) (by decide)
  · exact .pure rfl (by decide)
termination_by 8 * s.size
decreasing_by all_goals (try simp only [building_size]); omega

private theorem arguments_advances (s : TokenStream) :
    (arguments s).Advances s.rest (·.next.rest) (-4) 5 := by
  rw [arguments]
  refine .entering ?_
  rcases hskip : s.skip isNewline with ⟨t, hle⟩
  refine .bind (.skipping hskip rfl (argumentEntries_advances t)) (by decide) fun entries _ => ?_
  exact .returning (expect_advances entries.next (by decide) _) (fun _ => rfl) (by decide)
    (by decide)
termination_by 8 * s.size + 5
decreasing_by all_goals omega

private theorem argumentEntries_advances (s : TokenStream) :
    (argumentEntries s).Advances s.rest (·.next.rest) 1 4 := by
  rw [argumentEntries, ← look_rest s]
  refine .entering ?_
  split
  · exact .pure rfl (by decide)
  · refine .bind (expr_advances s.look) (by decide) fun first hfirst => ?_
    have hlt : first.next.size < s.size := by simpa using first.shorter
    rcases hskip : first.next.skip isNewline with ⟨t, hle⟩
    dsimp only
    split
    · exact .skipping hskip rfl (.pure rfl (by decide))
    · next comma hcomma =>
      have hlt' := comma.shorter
      have hcomma' : comma.next.rest <:+ t.rest :=
        (take?_eq_some hcomma).1 ▸ List.suffix_cons _ _
      rcases hskip' : comma.next.skip isNewline with ⟨u, hle'⟩
      dsimp only
      have hsuffix : u.rest <:+ s.rest :=
        (skip_suffix hskip').trans (hcomma'.trans ((skip_suffix hskip).trans
          (look_rest s ▸ hfirst)))
      have hgained : Gained s u := .of_suffix hsuffix (by omega)
      rw [after_append, ← List.singleton_append, after_append]
      exact .returning (.skipping hskip rfl (.taking hcomma (by decide) rfl (.skipping hskip' rfl
        (.again hgained (argumentEntries_advances u))))) (fun _ => rfl) (by decide) (by decide)
termination_by 8 * s.size + 4
decreasing_by all_goals (try simp only [look_size]); omega

private theorem parenthesised_advances (start : Span) (s : TokenStream) :
    (parenthesised start s).Advances s.rest (·.next.rest) (-3) 6 := by
  rw [parenthesised]
  refine .entering (.bind (arguments_advances s) (by decide) fun args _ => ?_)
  have hlt := args.shorter
  rw [← look_rest args.next]
  dsimp only
  split
  · next arrow harrow =>
    have hlt' : arrow.next.size < args.next.size := by simpa using arrow.shorter
    refine .bind (.taking harrow (by decide) rfl (requireDeclarations_advances arrow.next _))
      (by decide) fun _ _ => ?_
    refine .bind (operand_advances arrow.next) (by decide) fun ret _ => ?_
    have hlt'' := ret.shorter
    rw [← look_rest ret.next]
    split
    · exact .pure rfl (by decide)
    · next opening hopening =>
      have hlt₃ : opening.next.size < ret.next.size := by simpa using opening.shorter
      exact .returning (.taking hopening (by decide) rfl (block_advances _ opening.next))
        (fun _ => rfl) (by decide) (by decide)
  · exact .mono (grouped_advances _ _ _ _) (by decide) (by decide)
termination_by 8 * s.size + 6
decreasing_by all_goals omega

private theorem block_advances (start : Span) (s : TokenStream) :
    (block start s).Advances s.rest (·.next.rest) (-4) 5 := by
  rw [block]
  exact .entering (.returning (blockEntries_advances s) (fun _ => rfl) (by decide) (by decide))
termination_by 8 * s.size + 5
decreasing_by all_goals omega

private theorem blockEntries_advances (s : TokenStream) :
    (blockEntries s).Advances s.rest (·.next.rest) (-5) 4 := by
  rw [blockEntries]
  refine .entering ?_
  rcases hskip : s.skip TokenKind.isSeparator with ⟨t, hle⟩
  dsimp only
  split
  · next closing hclosing =>
    rw [after_append]
    exact .skipping hskip rfl (.taken_pure hclosing (by decide) rfl (by decide))
  · refine .bind (.skipping hskip rfl (expr_advances t)) (by decide) fun first hfirst => ?_
    have hlt := first.shorter
    refine .bind (endItem_advances first.next) (by decide) ?_
    rintro ⟨u, hle'⟩ hu
    rw [← look_rest u]
    dsimp only
    split
    case h_4 =>
      have hgained : Gained s u.look :=
        .of_suffix (by rw [look_rest]; exact hu.trans hfirst) (by simp only [look_size]; omega)
      exact .returning (.again hgained (blockEntries_advances u.look)) (fun _ => rfl) (by decide)
        (by decide)
    all_goals exact .stop (unexpected_rest u.look _) (by decide)
termination_by 8 * s.size + 4
decreasing_by all_goals (try simp only [look_size]); omega

private theorem bracketType_advances (start : Span) (s : TokenStream) :
    (bracketType start s).Advances s.rest (·.next.rest) (-8) 3 := by
  rw [bracketType, ← look_rest s]
  refine .entering ?_
  dsimp only
  split
  · next closing hclosing =>
    have hlt : closing.next.size < s.size := by simpa using closing.shorter
    exact .returning (.taking hclosing (by decide) rfl (operand_advances closing.next))
      (fun _ => rfl) (by decide) (by decide)
  · next caret _ hcaret =>
    have hlt : caret.next.size < s.size := by simpa using caret.shorter
    refine .bind (.taking hcaret (by decide) rfl (expect_advances caret.next (by decide) _))
      (by decide) fun closing _ => ?_
    have hlt' : closing.next.size < caret.next.size := by simpa using closing.shorter
    exact .returning (operand_advances closing.next) (fun _ => rfl) (by decide) (by decide)
  · refine .bind (operand_advances s.look) (by decide) fun length _ => ?_
    have hlt : length.next.size < s.size := by simpa using length.shorter
    refine .bind (expect_advances length.next (by decide) _) (by decide) fun closing _ => ?_
    have hlt' : closing.next.size < length.next.size := by simpa using closing.shorter
    exact .returning (operand_advances closing.next) (fun _ => rfl) (by decide) (by decide)
termination_by 8 * s.size + 4
decreasing_by all_goals (try simp only [look_size]); omega

end

private def recorded (result : Items) : Run Items :=
  { events := result.events, outcome := .ok result }

private theorem opening_advances {s : TokenStream} {t : { t : TokenStream // t.size ≤ s.size }}
    (h : s.skip TokenKind.isSeparator = t) :
    Advances s.rest (fun _ : Unit => t.1.rest) 1 1
      { events := .entered :: (s.skipped TokenKind.isSeparator).map .took, outcome := .ok () } := by
  subst h
  rw [← s.skipped_append_rest TokenKind.isSeparator]
  exact .entering (.mono (.tokens (s.ordinary_skipped rfl)) (by omega) (by omega))

private theorem items_advances (s : TokenStream) :
    (recorded (items s)).Advances s.rest (·.last.rest) 4 0 := by
  generalize hresult : items s = result
  rw [items] at hresult
  rcases hskip : s.skip TokenKind.isSeparator with ⟨t, hle⟩
  rw [hskip] at hresult
  dsimp only at hresult
  have hopening := opening_advances hskip
  split at hresult
  · subst hresult
    exact .answered hopening rfl rfl (by decide)
  · have hread : Advances s.rest (·.next.rest) (-1) 4
        { events := _ ++ (expr t).events, outcome := (expr t).outcome } :=
      hopening.append rfl (expr_advances t)
    split at hresult
    · next stopped hstopped =>
      subst hresult
      exact .settled hread hstopped rfl le_rfl
    · next first hfirst =>
      have hended : Advances s.rest (·.1.rest) (-1) (-1)
          { events := _ ++ (endItem first.next).events, outcome := (endItem first.next).outcome } :=
        hread.append hfirst (endItem_advances first.next)
      split at hresult
      · next stopped hstopped =>
        subst hresult
        exact .settled hended hstopped rfl (by decide)
      · next u hu hcontinued =>
        have hlt := first.shorter
        have hgained : Gained s u := .of_suffix (hended.suffix hcontinued) (by omega)
        have hothers : Advances s.rest (·.last.rest) 4 0
            { events := _ ++ .again .items s u :: (items u).events, outcome := .ok (items u) } :=
          hended.append hcontinued
            (.mono (.again hgained (items_advances u)) (by decide) (by decide))
        subst hresult
        exact .answered hothers rfl rfl le_rfl
termination_by s.size

end Run

private theorem takeWhile_of_stop {taken rest : List Token}
    (htaken : ∀ t ∈ taken, t.kind ≠ .endOfFile) (hrest : Grammar.nextKind rest = .endOfFile) :
    (taken ++ rest).takeWhile (·.kind != .endOfFile) = taken := by
  rw [List.takeWhile_append_of_pos (by simpa using htaken)]
  cases rest with
  | nil => exact List.append_nil taken
  | cons t rest =>
    have ht : t.kind = .endOfFile := hrest
    simp [ht]

/-- A parse reads forward only. The tokens that it takes, together with those that are left where it
stops, are the tokens of the file, so that each is taken at most once and in order; the end of the
file is never taken, and without a syntax error everything before it is. A loop that goes round
again took a token since it went round last, although what ends an item may take nothing. The rules
entered are bounded by the tokens taken. -/
theorem parseTokens_progress (id : FileId) (path : Bytes) (tokens : List Token) :
    let start : TokenStream := { rest := tokens, lastSpan := { file := id } }
    let parsed := parseTokens id path tokens
    let taken := ParseEvent.taken parsed.events
    taken ++ (items start.look).last.rest = tokens ∧
      (∀ t ∈ taken, t.kind ≠ .endOfFile) ∧
      (parsed.failed = false → taken = tokens.takeWhile (·.kind != .endOfFile)) ∧
      (∀ loop before after, .again loop before after ∈ parsed.events → Gained before after) ∧
      ParseEvent.entries parsed.events ≤ 6 * taken.length + 4 ∧
      ∀ s : TokenStream, closes s.kind →
        ∃ u, (endItem s).outcome = .ok u ∧ u.1.rest = s.rest := by
  intro start parsed taken
  obtain ⟨hreads, hordinary, hforward, hpaid⟩ := Run.items_advances start.look
  rw [look_rest] at hreads
  change taken ++ (items start.look).last.rest = tokens at hreads
  change (ParseEvent.entries parsed.events : Int) ≤ 6 * taken.length + 4 at hpaid
  refine ⟨hreads, hordinary, fun hfailed => ?_, fun loop before after h => hforward _ h,
    by omega, fun s hs => endItem_of_closes (s.kind_eq ▸ hs)⟩
  have hend := items_moves start.look
  rw [show (items start.look).failed = false from hfailed, if_neg Bool.false_ne_true, kind_eq]
    at hend
  rw [← hreads]
  exact (takeWhile_of_stop hordinary hend.2.2).symm

-- The loops that go round again in `a.b()` and `{ a; b }`, each on a line of its own.
example :
    let tokens : List Token := [.ident, .dot, .ident, .lparen, .rparen, .newline, .lbrace, .ident,
      .semicolon, .ident, .rbrace, .endOfFile].map fun kind => { kind, span := {} }
    (parseTokens 0 [] tokens).events.filterMap ParseEvent.loop? =
      [.postfixes, .postfixes, .items, .block, .block, .items] := by
  cbv

end Syntax

end Keywordless
