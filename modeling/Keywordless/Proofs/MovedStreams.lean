import Keywordless.Proofs.ParserMoves
import Mathlib

/-!
# Streams of moved tokens

Two texts may have the same tokens at different places. What a parse does to the one stream it then
does to the other, and the trees and reports of the two differ in their places alone. The first text
may also end where the second one has a newline and goes on; then the two parses go the same way up
to that newline if the first one meets no error.
-/

namespace Keywordless

open Grammar (nextKind)

namespace Span

def moved (place : Nat → Nat) (s : Span) : Span :=
  { s with start := place s.start, stop := place s.stop }

theorem moved_cover {place : Nat → Nat} (hplace : Monotone place) (s other : Span) :
    (s.cover other).moved place = (s.moved place).cover (other.moved place) := by
  by_cases hfile : s.file = other.file
  · simp [cover, moved, hfile, hplace.map_min, hplace.map_max]
  · simp [cover, moved, hfile]

private theorem moved_atStop (place : Nat → Nat) (s : Span) :
    s.atStop.moved place = (s.moved place).atStop := rfl

end Span

def Diagnostic.moved (place : Nat → Nat) (d : Diagnostic) : Diagnostic :=
  { d with
    primary := d.primary.moved place
    notes := d.notes.map fun n => { n with span := n.span.moved place } }

def ExprKind.isNamed (k : ExprKind) : Bool := [.name, .constant, .declaration, .member].contains k

def ExprHead.moved (place : Nat → Nat) (earlier : Nat) (h : ExprHead) : ExprHead :=
  { h with
    span := h.span.moved place
    index := h.index + earlier
    nameSpan := if h.kind.isNamed then h.nameSpan.moved place else h.nameSpan }

namespace Expr

mutual

def moved (place : Nat → Nat) (earlier : Nat) : Expr → Expr
  | absent => absent
  | node h type value body list =>
    node (h.moved place earlier) (moved place earlier type) (moved place earlier value)
      (moved place earlier body) (movedAll place earlier list)

def movedAll (place : Nat → Nat) (earlier : Nat) : List Expr → List Expr
  | [] => []
  | e :: rest => moved place earlier e :: movedAll place earlier rest

end

variable {place : Nat → Nat} {earlier : Nat}

private theorem movedAll_eq_map (list : List Expr) :
    movedAll place earlier list = list.map (moved place earlier) := by
  induction list with
  | nil => rfl
  | cons e rest ih => rw [movedAll, ih, List.map_cons]

@[simp] theorem moved_absent : absent.moved place earlier = absent := rfl

@[simp] theorem moved_kind (e : Expr) : (e.moved place earlier).kind = e.kind := by
  cases e with
  | absent => rfl
  | node h type value body list => rfl

theorem moved_span {e : Expr} (h : e.isAbsent = false) :
    (e.moved place earlier).span = e.span.moved place := by
  cases e with
  | absent => cases h
  | node head type value body list => rfl

end Expr

namespace TokenStream

def passed (s : TokenStream) (t : Token) (rest : List Token) : TokenStream :=
  { s with rest := rest, looked := false, lastSpan := t.span }

private theorem look_clean {s : TokenStream} (h : ∀ t ∈ s.rest, t.error = none) :
    s.look.reports = s.reports ∧ s.look.made = s.made := by
  unfold look
  split
  · exact ⟨rfl, rfl⟩
  · cases hrest : s.rest with
    | nil => simp
    | cons t w => simp [Token.diagnostic?, h t (by simp [hrest])]

private theorem take?_passed {s : TokenStream} {kind : TokenKind} {taken : Taken s}
    (h : s.take? kind = some taken) : taken.next = s.passed taken.token taken.next.rest :=
  take?_next h

theorem skip_of_cons {s : TokenStream} {t : Token} {w : List Token} {p : TokenKind → Bool}
    (hrest : s.rest = t :: w) (hp : p t.kind = true) :
    (s.skip p).1 = ((s.look.passed t w).skip p).1 := by
  obtain ⟨rest, looked, lastSpan, made, reports⟩ := s
  obtain rfl := hrest
  simp only [skip, skipFrom, hp, if_true, passed]
  cases looked <;> cases w <;> rfl

theorem skip_of_stop {s : TokenStream} {p : TokenKind → Bool}
    (hp : s.rest = [] ∨ p (nextKind s.rest) = false) : (s.skip p).1 = s.look := by
  obtain ⟨rest, looked, lastSpan, made, reports⟩ := s
  cases rest with
  | nil => rfl
  | cons t w =>
    have hstop : p t.kind = false := by simpa using hp
    simp [skip, skipFrom, hstop]

theorem skip_look (s : TokenStream) (p : TokenKind → Bool) : (s.look.skip p).1 = (s.skip p).1 := by
  obtain ⟨rest, looked, lastSpan, made, reports⟩ := s
  cases looked <;> cases rest <;> rfl

end TokenStream

/-- How the tokens of a first text are found again in a second one. -/
structure Relocation where
  place : Nat → Nat
  inOrder : Monotone place
  earlier : Nat := 0
  /-- The tokens after the newline of the second text at which the first one ends, if it does. -/
  after : Option (List Token) := none

namespace Relocation

variable (m : Relocation)

abbrev expr (e : Expr) : Expr := e.moved m.place m.earlier

/-- The same token in the second text. The blanks before it may be others. -/
structure Like (t t' : Token) : Prop where
  kind : t'.kind = t.kind
  text : t'.text = t.text
  error : t'.error = t.error
  span : t'.span = t.span.moved m.place

/-- The tokens of the second text from some point on go on like those of the first. -/
inductive Row : List Token → List Token → Prop
  | nil (whole : m.after = none) : Row [] []
  | cons {t t' : Token} {w w' : List Token} (like : m.Like t t')
      (inner : m.after ≠ none → t.kind ≠ .endOfFile) (rest : Row w w') : Row (t :: w) (t' :: w')
  | seam {sep : Token} {w u : List Token} (after : m.after = some u) (newline : sep.kind = .newline)
      (unmarked : sep.error = none) (clean : ∀ t ∈ w, t.error = none)
      (ended : nextKind w = .endOfFile ∨
        ∃ t v, w = t :: v ∧ t.kind = .newline ∧ nextKind v = .endOfFile) : Row w (sep :: u)

/-- The second stream is where the first one is. The token before is the same at least if `spans`
holds. -/
structure Tracks (spans : Prop) (s s' : TokenStream) : Prop where
  rest : m.Row s.rest s'.rest
  looked : s'.looked = s.looked
  made : s'.made = s.made + m.earlier
  reports : s'.reports = s.reports.map (Diagnostic.moved m.place)
  lastSpan : spans → s'.lastSpan = s.lastSpan.moved m.place

/-- The first stream is at the end of its text and the second one right behind the newline there. -/
structure Past (s s' : TokenStream) : Prop where
  ended : nextKind s.rest = .endOfFile
  clean : ∀ t ∈ s.rest, t.error = none
  after : m.after = some s'.rest
  looked : s'.looked = false
  made : s'.made = s.made + m.earlier
  reports : s'.reports = s.reports.map (Diagnostic.moved m.place)

structure Halts (s s' : TokenStream) : Prop where
  made : s'.made = s.made + m.earlier
  reports : s'.reports = s.reports.map (Diagnostic.moved m.place)

def draft (d : TokenStream.Draft) : TokenStream.Draft where
  kind := d.kind
  span := d.span.moved m.place
  nameSpan := if d.kind.isNamed then d.nameSpan.moved m.place else d.nameSpan
  name := d.name
  type := m.expr d.type
  value := m.expr d.value
  body := m.expr d.body
  list := d.list.map m.expr

variable {m}

theorem Like.diagnostic? {t t' : Token} (h : m.Like t t') :
    t'.diagnostic? = t.diagnostic?.map (Diagnostic.moved m.place) := by
  simp only [Token.diagnostic?, h.error, h.span, Option.map_map]
  rfl

namespace Row

variable {w w' : List Token}

private theorem nextKind_cases (h : m.Row w w') :
    nextKind w' = nextKind w ∨
      m.after ≠ none ∧ nextKind w = .endOfFile ∧ nextKind w' = .newline := by
  cases h with
  | nil => exact .inl rfl
  | cons hlike _ _ => exact .inl hlike.kind
  | seam hafter hnewline _ _ hended =>
    rcases hended with hend | ⟨t, v, rfl, hkind, -⟩
    · exact .inr ⟨by simp [hafter], hend, hnewline⟩
    · exact .inl (hnewline.trans hkind.symm)

theorem nextKind_eq (h : m.Row w w') (hwhole : m.after = none) : nextKind w' = nextKind w := by
  rcases h.nextKind_cases with heq | ⟨hafter, -⟩
  · exact heq
  · exact absurd hwhole hafter

/-- Before the seam the tokens are the same. -/
theorem nextKind_ne_endOfFile (h : m.Row w w') (hseam : m.after ≠ none)
    (hopen : nextKind w' ≠ .newline) : nextKind w ≠ .endOfFile ∧ nextKind w' ≠ .endOfFile := by
  cases h with
  | nil hwhole => exact absurd hwhole hseam
  | cons hlike hinner _ =>
    rw [Grammar.nextKind_cons, Grammar.nextKind_cons, hlike.kind]
    exact ⟨hinner hseam, hinner hseam⟩
  | seam _ hnewline _ _ _ => exact absurd hnewline hopen

private theorem reports (h : m.Row w w') :
    (w'.head?.bind Token.diagnostic?).toList =
      (w.head?.bind Token.diagnostic?).toList.map (Diagnostic.moved m.place) := by
  cases h with
  | nil => rfl
  | @cons t t' _ _ hlike _ _ =>
    simp only [List.head?_cons, Option.bind_some, hlike.diagnostic?]
    cases t.diagnostic? <;> rfl
  | seam _ _ hunmarked hclean _ =>
    have hnone : w.head?.bind Token.diagnostic? = none := by
      cases w with
      | nil => rfl
      | cons t v => simp [Token.diagnostic?, hclean t List.mem_cons_self]
    rw [hnone]
    simp [Token.diagnostic?, hunmarked]

end Row

theorem Past.look {s s' : TokenStream} (h : m.Past s s') : m.Past s.look s' := by
  obtain ⟨hreports, hmade⟩ := TokenStream.look_clean h.clean
  constructor
  · rw [TokenStream.look_rest]
    exact h.ended
  · rw [TokenStream.look_rest]
    exact h.clean
  · exact h.after
  · exact h.looked
  · rw [hmade]
    exact h.made
  · rw [hreports]
    exact h.reports

namespace Tracks

variable {spans spans' : Prop} {s s' : TokenStream}

theorem imp (h : m.Tracks spans s s') (himp : spans' → spans) : m.Tracks spans' s s' :=
  ⟨h.rest, h.looked, h.made, h.reports, fun hspans => h.lastSpan (himp hspans)⟩

theorem halts (h : m.Tracks spans s s') : m.Halts s s' := ⟨h.made, h.reports⟩

theorem look (h : m.Tracks spans s s') : m.Tracks spans s.look s'.look := by
  have hlooked := h.looked
  unfold TokenStream.look
  by_cases hseen : s.looked
  · rw [if_pos hseen, if_pos (hlooked.trans hseen)]
    exact h
  · rw [if_neg hseen, if_neg (hlooked ▸ hseen)]
    exact ⟨h.rest, rfl, h.made, by simp [h.reports, h.rest.reports], h.lastSpan⟩

theorem building (h : m.Tracks spans s s') : m.Tracks spans s.building s'.building :=
  ⟨h.rest, h.looked, by simp only [TokenStream.building, h.made]; omega, h.reports, h.lastSpan⟩

theorem kind_cases (h : m.Tracks spans s s') :
    s'.kind = s.kind ∨ m.after ≠ none ∧ s.kind = .endOfFile ∧ s'.kind = .newline := by
  simp only [TokenStream.kind_eq]
  exact h.rest.nextKind_cases

theorem kind_beq (h : m.Tracks spans s s') {kind : TokenKind}
    (hkind : kind ∉ [.newline, .endOfFile]) : (s'.kind == kind) = (s.kind == kind) := by
  rcases h.kind_cases with heq | ⟨-, hend, hnewline⟩
  · rw [heq]
  · simp only [List.mem_cons, List.not_mem_nil, or_false, not_or] at hkind
    simp [hend, hnewline, Ne.symm hkind.1, Ne.symm hkind.2]

private theorem passed (h : m.Tracks spans s s') {t t' : Token} {w w' : List Token}
    (hlike : m.Like t t') (hrow : m.Row w w') : m.Tracks True (s.passed t w) (s'.passed t' w') :=
  ⟨hrow, rfl, h.made, h.reports, fun _ => hlike.span⟩

theorem take (h : m.Tracks spans s s') (kind : TokenKind) (hkind : kind ∉ [.newline, .endOfFile]) :
    s.take? kind = none ∧ s'.take? kind = none ∨
      ∃ taken taken', s.take? kind = some taken ∧ s'.take? kind = some taken' ∧
        m.Like taken.token taken'.token ∧ m.Tracks True taken.next taken'.next := by
  cases htaken : s.take? kind with
  | none =>
    have hnext : nextKind s.rest ≠ kind := TokenStream.nextKind_ne_of_take? htaken (by grind)
    have hnext' : nextKind s'.rest ≠ kind := by grind [h.rest.nextKind_cases]
    exact .inl ⟨rfl, TokenStream.take?_eq_none hnext'⟩
  | some taken =>
    obtain ⟨hrest, htoken⟩ := TokenStream.take?_eq_some htaken
    have hrow := h.rest
    rw [hrest] at hrow
    generalize hrest' : s'.rest = w' at hrow
    cases hrow with
    | cons hlike _ hrow =>
      obtain ⟨taken', htaken', rfl, hw'⟩ := TokenStream.take?_of_rest hrest'
      rw [hlike.kind.trans htoken] at htaken'
      refine .inr ⟨taken, taken', rfl, htaken', hlike, ?_⟩
      rw [TokenStream.take?_passed htaken, TokenStream.take?_passed htaken', hw']
      exact h.passed hlike hrow
    | seam _ _ _ _ hended =>
      rcases hended with hend | ⟨t, v, heq, hnewline, -⟩
      · grind [Grammar.nextKind_cons]
      · obtain ⟨rfl, -⟩ := List.cons.inj heq
        grind

/-- Skipping leads to the same place in both streams, or the first text ends there and the second
stream has passed the newline. -/
theorem skip (h : m.Tracks spans s s') {p : TokenKind → Bool} (hp : p .newline = true)
    (hend : p .endOfFile = false) :
    m.Tracks spans (s.skip p).1 (s'.skip p).1 ∨
      ∃ u, m.Past (s.skip p).1 u ∧ (s'.skip p).1 = (u.skip p).1 := by
  have hrow := h.rest
  generalize hw : s.rest = w at hrow
  generalize hw' : s'.rest = w' at hrow
  induction hrow generalizing spans s s' with
  | nil =>
    rw [TokenStream.skip_of_stop (.inl hw), TokenStream.skip_of_stop (.inl hw')]
    exact .inl h.look
  | @cons t t' w w' hlike _ hrow ih =>
    by_cases hskip : p t.kind = true
    · have hskip' : p t'.kind = true := hlike.kind ▸ hskip
      rw [TokenStream.skip_of_cons hw hskip, TokenStream.skip_of_cons hw' hskip']
      rcases ih (h.look.passed hlike hrow) rfl rfl with htracks | hpast
      · exact .inl (htracks.imp fun _ => trivial)
      · exact .inr hpast
    · have hskip' : p t'.kind = false := by simpa [hlike.kind] using hskip
      rw [Bool.not_eq_true] at hskip
      rw [TokenStream.skip_of_stop (.inr (by rwa [hw])),
        TokenStream.skip_of_stop (.inr (by rwa [hw']))]
      exact .inl h.look
  | @seam sep w u hafter hnewline hunmarked hclean hended =>
    have hskip' : p sep.kind = true := hnewline ▸ hp
    right
    refine ⟨s'.look.passed sep u, ?_, TokenStream.skip_of_cons hw' hskip'⟩
    rcases hended with hlast | ⟨t, v, rfl, hkind, hlast⟩
    · rw [TokenStream.skip_of_stop (.inr (by rwa [hw, hlast]))]
      exact ⟨by rwa [TokenStream.look_rest, hw], by rwa [TokenStream.look_rest, hw], hafter, rfl,
        h.look.made, h.look.reports⟩
    · have hstop : p (nextKind (s.look.passed t v).rest) = false := hlast ▸ hend
      rw [TokenStream.skip_of_cons hw (hkind ▸ hp), TokenStream.skip_of_stop (.inr hstop)]
      apply Past.look
      exact ⟨hlast, (List.forall_mem_cons.mp hclean).2, hafter, rfl, h.look.made, h.look.reports⟩

theorem unexpected (h : m.Tracks (nextKind s.rest = .endOfFile) s s') (hwhole : m.after = none)
    (e : Expected) : m.Halts (s.unexpected e) (s'.unexpected e) := by
  have hlook := h.look
  have hrow := hlook.rest
  have hlast : nextKind s.look.rest = .endOfFile →
      s'.look.lastSpan = s.look.lastSpan.moved m.place :=
    fun hend => hlook.lastSpan (by rwa [TokenStream.look_rest] at hend)
  have hreport {code : Code} {span span' : Span} {message : Bytes}
      (hspan : span' = span.moved m.place) :
      m.Halts (s.look.report code span message) (s'.look.report code span' message) := by
    refine ⟨hlook.made, ?_⟩
    simp only [TokenStream.report, hlook.reports, List.map_append, hspan]
    rfl
  unfold TokenStream.unexpected
  dsimp only
  generalize s.look.rest = w at hrow hlast ⊢
  generalize s'.look.rest = w' at hrow ⊢
  cases hrow with
  | nil => exact hreport (by rw [hlast rfl, Span.moved_atStop])
  | @cons t t' _ _ hlike _ _ =>
    dsimp only
    rw [hlike.kind, hlike.text]
    split
    · exact hlook.halts
    · next hkind => exact hreport (by rw [hlast hkind, Span.moved_atStop])
    · exact hreport hlike.span
    · exact hreport hlike.span
  | seam hafter _ _ _ _ => simp [hwhole] at hafter

end Tracks

/-! ### Steps of two parses -/

structure Steps (m : Relocation) {α : Type} (move : α → α) {bound bound' : Nat}
    (r : Syntax.Step bound α) (r' : Syntax.Step bound' α) : Prop where
  value : r'.value = move r.value
  next : m.Tracks True r.next r'.next

/-- If the first step succeeds, so does the second, and the results fit. If the first one fails and
there is no seam, the second one fails with the same reports. -/
def Follows (m : Relocation) {α β : Type} (fits : α → β → Prop) :
    Except TokenStream α → Except TokenStream β → Prop
  | .ok a, .ok b => fits a b
  | .ok _, .error _ => False
  | .error e, r => m.after = none → ∃ e', r = .error e' ∧ m.Halts e e'

namespace Follows

variable {α β γ δ : Type} {fits : α → β → Prop} {fits' : γ → δ → Prop}
  {r : Except TokenStream α} {r' : Except TokenStream β}

theorem cases (h : m.Follows fits r r') :
    (∃ a b, r = .ok a ∧ r' = .ok b ∧ fits a b) ∨
      ∃ e, r = .error e ∧ (m.after = none → ∃ e', r' = .error e' ∧ m.Halts e e') := by
  cases r with
  | error e => exact .inr ⟨e, rfl, h⟩
  | ok a =>
    cases r' with
    | error e' => exact h.elim
    | ok b => exact .inl ⟨a, b, rfl, rfl, h⟩

theorem bind {x : Syntax.Run α} {x' : Syntax.Run β} {next : α → Syntax.Run γ}
    {next' : β → Syntax.Run δ} (h : m.Follows fits x.outcome x'.outcome)
    (hnext : ∀ a b, x.outcome = .ok a → fits a b →
      m.Follows fits' (next a).outcome (next' b).outcome) :
    m.Follows fits' (x >>= next).outcome (x' >>= next').outcome := by
  rw [Syntax.Run.outcome_bind, Syntax.Run.outcome_bind]
  obtain ⟨a, b, ha, hb, hfits⟩ | ⟨e, he, hhalts⟩ := h.cases
  · rw [ha, hb]
    exact hnext a b ha hfits
  · rw [he]
    intro hwhole
    obtain ⟨e', he', hhalts⟩ := hhalts hwhole
    exact ⟨e', by rw [he']; rfl, hhalts⟩

/-- Where the first text ends, only its errors are not those of the second one. -/
theorem of_error {e : TokenStream} (hseam : m.after ≠ none) : m.Follows fits (.error e) r' :=
  fun hwhole => absurd hwhole hseam

theorem error {e e' : TokenStream} (h : m.after = none → m.Halts e e') :
    m.Follows fits (.error e) (.error e') :=
  fun hwhole => ⟨e', rfl, h hwhole⟩

end Follows

end Relocation

namespace Syntax

open TokenStream (Draft)

variable {m : Relocation} {s s' : TokenStream}

theorem expect_follows (h : m.Tracks True s s') {kind : TokenKind}
    (hkind : kind ∉ [.newline, .endOfFile]) (e : Expected) :
    m.Follows (fun taken taken' => m.Like taken.token taken'.token ∧
      m.Tracks True taken.next taken'.next)
      (expect s kind e).outcome (expect s' kind e).outcome := by
  unfold expect
  rcases h.look.take kind hkind with ⟨hnone, hnone'⟩ | ⟨taken, taken', hsome, hsome', htaken⟩
  · rw [hnone, hnone']
    exact .error fun hwhole => (h.imp fun _ => trivial).unexpected hwhole e
  · rw [hsome, hsome']
    exact htaken

theorem expect_ended (h : nextKind s.rest = .endOfFile) {kind : TokenKind}
    (hkind : kind ≠ .endOfFile) (e : Expected) :
    (expect s kind e).outcome = .error (s.unexpected e) := by
  have hnone : s.look.take? kind = none := TokenStream.look_take?_eq_none (h ▸ hkind.symm)
  rw [expect, hnone]
  rfl

private theorem endItem_cases (s : TokenStream) :
    (∃ sep w u, sep.kind.isSeparator = true ∧ s.rest = sep :: w ∧ (endItem s).outcome = .ok u ∧
        u.1 = s.look.passed sep w) ∨
      (closes (nextKind s.rest) = true ∧ ∃ u, (endItem s).outcome = .ok u ∧ u.1 = s.look) ∨
      (nextKind s.rest).isSeparator = false ∧ closes (nextKind s.rest) = false ∧
        (endItem s).outcome = .error (s.unexpected .separator) := by
  have hkind : s.look.kind = nextKind s.rest := by rw [TokenStream.look_kind, TokenStream.kind_eq]
  unfold endItem
  dsimp only
  split
  · next taken htaken =>
    obtain ⟨hrest, hnewline⟩ := TokenStream.take?_eq_some htaken
    refine .inl ⟨taken.token, taken.next.rest, _, by rw [hnewline]; rfl, ?_, rfl, ?_⟩
    · rwa [TokenStream.look_rest] at hrest
    · exact TokenStream.take?_passed htaken
  · next taken _ htaken =>
    obtain ⟨hrest, hsemicolon⟩ := TokenStream.take?_eq_some htaken
    refine .inl ⟨taken.token, taken.next.rest, _, by rw [hsemicolon]; rfl, ?_, rfl, ?_⟩
    · rwa [TokenStream.look_rest] at hrest
    · exact TokenStream.take?_passed htaken
  · next hnonewline hnosemicolon =>
    right
    have hnewline := TokenStream.nextKind_ne_of_take? hnonewline (by decide)
    have hsemicolon := TokenStream.nextKind_ne_of_take? hnosemicolon (by decide)
    rw [TokenStream.look_rest] at hnewline hsemicolon
    rw [hkind]
    generalize nextKind s.rest = kind at hnewline hsemicolon ⊢
    cases kind <;> simp_all [closes, TokenKind.isSeparator]

private theorem not_closes {kind : TokenKind} (h : kind.isSeparator = true) :
    closes kind = false := by
  cases kind <;> first | rfl | cases h

private theorem endItem_passes {sep : Token} {w : List Token} (hrest : s.rest = sep :: w)
    (hsep : sep.kind.isSeparator = true) :
    ∃ u, (endItem s).outcome = .ok u ∧ u.1 = s.look.passed sep w := by
  have hkind : nextKind s.rest = sep.kind := by rw [hrest, Grammar.nextKind_cons]
  rcases endItem_cases s with ⟨sep', w', u, -, hrest', hu⟩ | ⟨hcloses, -⟩ | ⟨hnosep, -⟩
  · obtain ⟨rfl, rfl⟩ := List.cons.inj (hrest.symm.trans hrest')
    exact ⟨u, hu⟩
  · simp [hkind, not_closes hsep] at hcloses
  · simp [hkind, hsep] at hnosep

private theorem endItem_stays (hcloses : closes (nextKind s.rest) = true) :
    ∃ u, (endItem s).outcome = .ok u ∧ u.1 = s.look := by
  rcases endItem_cases s with ⟨sep, w, _, hsep, hrest, -⟩ | ⟨-, hu⟩ | ⟨-, hnone, -⟩
  · simp [hrest, not_closes hsep] at hcloses
  · exact hu
  · simp [hcloses] at hnone

private theorem endItem_fails (hsep : (nextKind s.rest).isSeparator = false)
    (hcloses : closes (nextKind s.rest) = false) :
    (endItem s).outcome = .error (s.unexpected .separator) := by
  rcases endItem_cases s with ⟨sep, w, _, hsome, hrest, -⟩ | ⟨hsome, -⟩ | ⟨-, -, he⟩
  · simp [hrest, hsome] at hsep
  · simp [hcloses] at hsome
  · exact he

theorem endItem_follows (h : m.Tracks True s s') :
    m.Follows (fun u u' => m.Tracks True u.1 u'.1 ∨ m.Past u.1 u'.1) (endItem s).outcome
      (endItem s').outcome := by
  have hfollows {u : { next : TokenStream // next.size ≤ s.size }}
      {u' : { next : TokenStream // next.size ≤ s'.size }} {v v' : TokenStream}
      (hu : (endItem s).outcome = .ok u ∧ u.1 = v) (hu' : (endItem s').outcome = .ok u' ∧ u'.1 = v')
      (hv : m.Tracks True v v' ∨ m.Past v v') :
      m.Follows (fun u u' => m.Tracks True u.1 u'.1 ∨ m.Past u.1 u'.1)
        (endItem s).outcome (endItem s').outcome := by
    rw [hu.1, hu'.1]
    rwa [← hu.2, ← hu'.2] at hv
  have hrow := h.rest
  generalize hw : s.rest = w at hrow
  generalize hw' : s'.rest = w' at hrow
  cases hrow with
  | nil =>
    obtain ⟨u, hu⟩ := endItem_stays (s := s) (by rw [hw]; rfl)
    obtain ⟨u', hu'⟩ := endItem_stays (s := s') (by rw [hw']; rfl)
    exact hfollows hu hu' (.inl h.look)
  | @cons t t' _ _ hlike _ hrow =>
    have hkind : nextKind s.rest = t.kind := by rw [hw, Grammar.nextKind_cons]
    have hkind' : nextKind s'.rest = t.kind := by rw [hw', Grammar.nextKind_cons, hlike.kind]
    by_cases hsep : t.kind.isSeparator = true
    · obtain ⟨u, hu⟩ := endItem_passes hw hsep
      obtain ⟨u', hu'⟩ := endItem_passes hw' (hlike.kind ▸ hsep)
      exact hfollows hu hu' (.inl (h.look.passed hlike hrow))
    · by_cases hcloses : closes t.kind = true
      · obtain ⟨u, hu⟩ := endItem_stays (s := s) (by rwa [hkind])
        obtain ⟨u', hu'⟩ := endItem_stays (s := s') (by rwa [hkind'])
        exact hfollows hu hu' (.inl h.look)
      · rw [Bool.not_eq_true] at hsep hcloses
        rw [endItem_fails (s := s) (by rwa [hkind]) (by rwa [hkind]),
          endItem_fails (s := s') (by rwa [hkind']) (by rwa [hkind'])]
        exact .error fun hwhole => (h.imp fun _ => trivial).unexpected hwhole .separator
  | seam hafter hnewline _ hclean hended =>
    obtain ⟨u', hu'⟩ := endItem_passes hw' (by rw [hnewline]; rfl)
    rcases hended with hend | ⟨t, v, rfl, hkind, hend⟩
    · obtain ⟨u, hu⟩ := endItem_stays (s := s) (by rw [hw, hend]; rfl)
      apply hfollows hu hu'
      exact .inr ⟨by rwa [TokenStream.look_rest, hw], by rwa [TokenStream.look_rest, hw], hafter,
        rfl, h.look.made, h.look.reports⟩
    · obtain ⟨u, hu⟩ := endItem_passes hw (by rw [hkind]; rfl)
      apply hfollows hu hu'
      exact .inr ⟨hend, (List.forall_mem_cons.mp hclean).2, hafter, rfl, h.look.made,
        h.look.reports⟩

theorem built_moved (hmade : s'.made = s.made + m.earlier) {d d' : Draft} (hd : d' = m.draft d) :
    s'.built d' = m.expr (s.built d) := by
  subst hd
  simp only [TokenStream.built, Draft.expr, Relocation.draft, Expr.moved, ExprHead.moved,
    Expr.movedAll_eq_map, hmade]
  congr 2
  omega

theorem finish_steps (h : m.Tracks True s s') {bound bound' : Nat} {d d' : Draft}
    {hlt : s.size < bound} {hlt' : s'.size < bound'} (hd : d' = m.draft d) :
    m.Steps m.expr (finish s d hlt) (finish s' d' hlt') :=
  ⟨built_moved h.made hd, h.building⟩

private theorem firstOther?_moved (list : List Expr) :
    firstOther? (list.map m.expr) = (firstOther? list).map m.expr := by
  simp only [firstOther?, List.find?_map, Function.comp_def, Expr.moved_kind]

theorem requireDeclarations_follows (h : m.Tracks True s s') (list : List Expr)
    (hlist : ∀ e ∈ list, e.isAbsent = false) :
    m.Follows (fun _ _ => True) (requireDeclarations s list).outcome
      (requireDeclarations s' (list.map m.expr)).outcome := by
  unfold requireDeclarations
  rw [firstOther?_moved]
  cases hother : firstOther? list with
  | none => trivial
  | some e =>
    have he : e.isAbsent = false := hlist e (List.mem_of_find?_eq_some hother)
    refine .error fun _ => ⟨h.made, ?_⟩
    simp only [TokenStream.report, h.reports, List.map_append, Expr.moved_span he]
    rfl

theorem grouped_follows (h : m.Tracks True s s') {span span' : Span}
    (hspan : span' = span.moved m.place) {entries : List Expr}
    (hentries : ∀ e ∈ entries, e.isAbsent = false) {bound bound' : Nat} {hlt : s.size < bound}
    {hlt' : s'.size < bound'} :
    m.Follows (m.Steps m.expr) (grouped s span entries hlt).outcome
      (grouped s' span' (entries.map m.expr) hlt').outcome := by
  cases entries with
  | nil =>
    refine .error fun _ => ⟨h.made, ?_⟩
    simp only [TokenStream.report, h.reports, List.map_append, hspan]
    rfl
  | cons first others =>
    have hsingle : ((others.map m.expr).isEmpty && (m.expr first).kind != .declaration) =
        (others.isEmpty && first.kind != .declaration) := by
      rw [List.isEmpty_map, Expr.moved_kind]
    simp only [grouped, List.map_cons, hsingle]
    split
    · exact finish_steps h (by simp [Relocation.draft, hspan, ExprKind.isNamed])
    · refine .bind (requireDeclarations_follows h _ hentries) ?_
      intro _ _ _ _
      exact finish_steps h (by simp [Relocation.draft, hspan, ExprKind.isNamed])

end Syntax

end Keywordless
