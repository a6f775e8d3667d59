import Keywordless.Proofs.NestedSpans
import Keywordless.Proofs.ParserMoves
import Keywordless.Proofs.Tiling

/-!
# Spans of parsed trees

The parser takes its spans from the tokens that it takes: a node starts where its first token does
and stops with the last token taken. Tokens follow one another, so that the spans of everything that
is parsed without an error nest and come in source order.
-/

namespace Keywordless

private theorem Span.cover_eq {a b : Span} (hfile : a.file = b.file) (hstart : a.start ≤ b.start)
    (hstop : a.stop ≤ b.stop) : a.cover b = ⟨a.file, a.start, b.stop⟩ := by
  simp [cover, hfile, hstart, hstop]

/-- Tokens of a file one after the other from `start` on. Only the end of the file takes nothing. -/
def TokenRow (file : FileId) (size : Nat) : Nat → List Token → Prop
  | start, [] => start ≤ size
  | start, t :: rest =>
    t.span.file = file ∧ start ≤ t.span.start ∧ t.span.start ≤ t.span.stop ∧
      (t.kind ≠ .endOfFile → t.span.start < t.span.stop) ∧ TokenRow file size t.span.stop rest

theorem TokenRow.le {file : FileId} {size start : Nat} {tokens : List Token}
    (h : TokenRow file size start tokens) : start ≤ size := by
  induction tokens generalizing start with
  | nil => exact h
  | cons t rest ih =>
    obtain ⟨-, hstart, hle, -, hrest⟩ := h
    have hstop := ih hrest
    omega

private theorem Tiles.le {file : FileId} {start stop : Nat} {spans : List Span}
    (h : Tiles file start spans stop) : start ≤ stop := by
  induction spans generalizing start with
  | nil => exact Nat.le_of_eq h
  | cons span rest ih =>
    obtain ⟨-, -, hlt, hrest⟩ := h
    exact hlt.le.trans (ih hrest)

private theorem Tiles.tokenRow {file : FileId} {start stop size : Nat} {tokens : List Token}
    (h : Tiles file start (tokens.flatMap Token.tiles) stop) (hstop : stop ≤ size) :
    TokenRow file size start (tokens ++ [{ kind := .endOfFile, span := ⟨file, size, size⟩ }]) := by
  induction tokens generalizing start with
  | nil =>
    have hstart : start = stop := h
    exact ⟨rfl, hstart ▸ hstop, le_rfl, fun hkind => absurd rfl hkind, le_rfl⟩
  | cons t rest ih =>
    obtain ⟨middle, htoken, hrest⟩ := tiles_append_iff.mp h
    obtain ⟨front, hleading, hfile, rfl, hlt, rfl⟩ := tiles_append_iff.mp htoken
    exact ⟨hfile, hleading.le, hlt.le, fun _ => hlt, ih hrest⟩

theorem SourceFile.tokens_row (f : SourceFile) : TokenRow f.id f.content.length 0 f.tokens := by
  obtain ⟨before, stop, htokens, -, htiles, hstop, -⟩ :=
    @tokensFrom_tiles f 0 f.content rfl (Nat.zero_le _)
  rw [SourceFile.tokens, htokens]
  exact htiles.tokenRow hstop

namespace TokenStream

variable {file : FileId} {size : Nat} {s t u : TokenStream}

@[simp] theorem look_lastSpan (s : TokenStream) : s.look.lastSpan = s.lastSpan := by
  unfold look
  split <;> rfl

@[simp] theorem building_lastSpan (s : TokenStream) : s.building.lastSpan = s.lastSpan := rfl

def front (s : TokenStream) : Nat := (s.rest.head?.map (·.span.start)).getD s.lastSpan.stop

@[simp] theorem look_front (s : TokenStream) : s.look.front = s.front := by simp [front]

/-- The tokens that are left follow the one taken last. -/
structure Lined (file : FileId) (size : Nat) (s : TokenStream) : Prop where
  inFile : s.lastSpan.file = file
  le : s.lastSpan.start ≤ s.lastSpan.stop
  tokens : TokenRow file size s.lastSpan.stop s.rest

private theorem Lined.stop_le_front (h : s.Lined file size) : s.lastSpan.stop ≤ s.front := by
  have htokens := h.tokens
  unfold front
  cases hrest : s.rest with
  | nil => simp
  | cons t rest =>
    rw [hrest] at htokens
    exact htokens.2.1

private theorem Lined.look (h : s.Lined file size) : s.look.Lined file size :=
  ⟨by simpa using h.inFile, by simpa using h.le, by simpa using h.tokens⟩

private theorem Lined.building (h : s.Lined file size) : s.building.Lined file size :=
  ⟨h.inFile, h.le, h.tokens⟩

structure TookFrom (file : FileId) (size : Nat) (s : TokenStream) (token : Token)
    (next : TokenStream) : Prop where
  lined : next.Lined file size
  span : token.span = next.lastSpan
  start : next.lastSpan.start = s.front
  lt : s.front < next.lastSpan.stop
  before : s.lastSpan.stop ≤ s.front
  after : next.lastSpan.stop ≤ next.front

private theorem Lined.take (h : s.Lined file size) {kind : TokenKind} {taken : Taken s}
    (htaken : s.take? kind = some taken) (hkind : kind ≠ .endOfFile) :
    TookFrom file size s taken.token taken.next := by
  obtain ⟨hrest, htoken⟩ := take?_eq_some htaken
  have hlast : taken.next.lastSpan = taken.token.span := by rw [take?_next htaken]
  have hfront : s.front = taken.token.span.start := by simp [front, hrest]
  have htokens := h.tokens
  rw [hrest] at htokens
  obtain ⟨hfile, -, hle, hlt, hafter⟩ := htokens
  have hlined : taken.next.Lined file size := by
    refine ⟨?_, ?_, ?_⟩
    · rw [hlast, hfile]
    · rw [hlast]
      exact hle
    · rw [hlast]
      exact hafter
  refine ⟨hlined, hlast.symm, ?_, ?_, h.stop_le_front, hlined.stop_le_front⟩
  · rw [hlast, hfront]
  · rw [hlast, hfront]
    exact hlt (htoken ▸ hkind)

private theorem Lined.lookTake (h : s.Lined file size) {kind : TokenKind} {taken : Taken s.look}
    (htaken : s.look.take? kind = some taken) (hkind : kind ≠ .endOfFile) :
    TookFrom file size s taken.token taken.next := by
  obtain ⟨hlined, hspan, hstart, hlt, hbefore, hafter⟩ := h.look.take htaken hkind
  rw [look_front] at hstart hlt
  exact ⟨hlined, hspan, hstart, hlt, by simpa using hbefore, hafter⟩

structure Ahead (file : FileId) (size : Nat) (s t : TokenStream) : Prop where
  lined : t.Lined file size
  start : s.lastSpan.start ≤ t.lastSpan.start
  stop : s.lastSpan.stop ≤ t.lastSpan.stop
  front : s.front ≤ t.front
  after : t.lastSpan.stop ≤ t.front

private theorem Ahead.trans (h : Ahead file size s t) (h' : Ahead file size t u) :
    Ahead file size s u :=
  ⟨h'.lined, h.start.trans h'.start, h.stop.trans h'.stop, h.front.trans h'.front, h'.after⟩

private theorem TookFrom.ahead {token : Token} (h : TookFrom file size s token t)
    (hs : s.Lined file size) : Ahead file size s t := by
  obtain ⟨hlined, -, hstart, hlt, hbefore, hafter⟩ := h
  have hle := hs.le
  exact ⟨hlined, by omega, by omega, by omega, hafter⟩

private theorem Move.ahead (hmove : Move s t) (h : s.Lined file size) : Ahead file size s t := by
  cases hmove with
  | look => exact ⟨h.look, by simp, by simp, by simp, h.look.stop_le_front⟩
  | build => exact ⟨h.building, le_rfl, le_rfl, le_rfl, h.stop_le_front⟩
  | @take kind taken hlooked hfound hkind =>
    exact (h.take hfound (by rintro rfl; simp at hkind)).ahead h

private theorem Moves.ahead (hmoves : Moves s t) (h : s.Lined file size) : Ahead file size s t := by
  induction hmoves with
  | refl => exact ⟨h, le_rfl, le_rfl, le_rfl, h.stop_le_front⟩
  | tail _ hlast ih => exact ih.trans (hlast.ahead ih.lined)

private theorem Lined.cover (h : t.Lined file size) {start : Span} (hfile : start.file = file)
    (hstart : start.start ≤ t.lastSpan.start) (hstop : start.stop ≤ t.lastSpan.stop) :
    start.cover t.lastSpan = ⟨file, start.start, t.lastSpan.stop⟩ := by
  rw [Span.cover_eq (hfile.trans h.inFile.symm) hstart hstop, hfile]

private theorem Ahead.cover (h : Ahead file size s t) (hs : s.Lined file size) :
    s.lastSpan.cover t.lastSpan = ⟨file, s.lastSpan.start, t.lastSpan.stop⟩ :=
  h.lined.cover hs.inFile h.start h.stop

end TokenStream

namespace Expr

/-- An expression whose span lies between two offsets, nested in itself. -/
structure Fits (e : Expr) (file : FileId) (lo hi : Nat) : Prop where
  present : e.isAbsent = false
  nested : e.Nested file
  row : Rowed lo hi e.ownSpans

structure FitAll (file : FileId) (lo hi : Nat) (list : List Expr) : Prop where
  nested : ∀ e ∈ list, e.Nested file
  row : Rowed lo hi (list.flatMap ownSpans)

variable {file : FileId} {lo lo' hi hi' : Nat} {e : Expr} {list : List Expr}

private theorem Fits.span (h : e.Fits file lo hi) :
    lo ≤ e.span.start ∧ e.span.start < e.span.stop ∧ e.span.stop ≤ hi :=
  (rowed_ownSpans_iff h.present).mp h.row

private theorem FitAll.nil (file : FileId) (lo hi : Nat) :
    FitAll file lo hi [] := ⟨by simp, .nil _ _⟩

private theorem FitAll.mono (h : FitAll file lo hi list) (hlo : lo' ≤ lo) (hhi : hi ≤ hi') :
    FitAll file lo' hi' list :=
  ⟨h.nested, h.row.mono hlo hhi⟩

private theorem Fits.cons (h : e.Fits file lo hi) (hrest : FitAll file lo' hi' list)
    (hle : hi ≤ lo') (hhi : hi ≤ hi') : FitAll file lo hi' (e :: list) := by
  have hspan := h.span
  refine ⟨List.forall_mem_cons.mpr ⟨h.nested, hrest.nested⟩, ?_⟩
  rw [List.flatMap_cons]
  exact h.row.append hrest.row hle (by omega) hhi

end Expr

namespace Syntax

open TokenStream

variable {file : FileId} {size : Nat} {s t : TokenStream}

/-- What is built of a draft fits between the ends of its span if the parts of the draft do, one
after the other and with none left out. -/
theorem built_fits {lo : Nat} {d : Draft} (hspan : d.span = ⟨file, lo, s.lastSpan.stop⟩)
    (hlt : lo < s.lastSpan.stop)
    (hname : d.kind ≠ .intLit → d.name ≠ [] →
      lo ≤ d.nameSpan.start ∧ d.nameSpan.stop ≤ s.lastSpan.stop)
    (hrow : Rowed lo s.lastSpan.stop (Expr.arranged d.kind d.type.ownSpans d.value.ownSpans
      d.body.ownSpans (d.list.flatMap Expr.ownSpans)))
    (hwhole : ∀ e ∈ d.type :: d.value :: d.body :: d.list,
      e = .absent ∨ e ∈ Expr.parts d.kind d.type d.value d.body d.list)
    (hnested : d.type.Nested file ∧ d.value.Nested file ∧ d.body.Nested file ∧
      ∀ e ∈ d.list, e.Nested file) :
    (s.built d).Fits file lo s.lastSpan.stop := by
  have hfitted : Expr.Fitted file
      { kind := d.kind, span := d.span, index := s.made + 1, nameSpan := d.nameSpan
        name := d.name }
      d.type d.value d.body d.list := by
    rw [Expr.arranged_flatMap] at hrow
    refine ⟨?_, ?_, ?_, hwhole⟩
    · rw [hspan]
    · simpa only [hspan] using hname
    · simpa only [hspan] using hrow
  obtain ⟨htype, hvalue, hbody, hlist⟩ := hnested
  refine ⟨rfl, ⟨hfitted, htype, hvalue, hbody, Expr.allNested_iff.mpr hlist⟩, ?_⟩
  refine Rowed.single_iff.mpr ?_
  rw [hspan]
  exact ⟨le_rfl, hlt, le_rfl⟩

private theorem name_fits {token : Token} (hs : s.Lined file size) (hspan : token.span = s.lastSpan)
    (hlt : s.lastSpan.start < s.lastSpan.stop) :
    (s.built
      { kind := .name, span := token.span, nameSpan := token.span, name := token.text }).Fits file
        s.lastSpan.start s.lastSpan.stop := by
  apply built_fits _ hlt
  · intro _ _
    simp [hspan]
  · exact .nil _ _
  · simp
  · simp [Expr.Nested]
  · rw [hspan, ← hs.inFile]

private theorem wrapper_fits {kind : ExprKind}
    (hkind : kind ∈ [.sliceType, .multipointerType, .pointerType]) {span : Span} {lo lo' : Nat}
    {elem : Expr} (hspan : span = ⟨file, lo, s.lastSpan.stop⟩) (hlo : lo ≤ lo')
    (helem : elem.Fits file lo' s.lastSpan.stop) :
    (s.built { kind, span, type := elem }).Fits file lo s.lastSpan.stop := by
  have hin := helem.span
  have hrow := helem.row.mono hlo le_rfl
  simp only [List.mem_cons, List.not_mem_nil, or_false] at hkind
  apply built_fits hspan (by omega)
  · exact fun _ hname => absurd rfl hname
  · rcases hkind with rfl | rfl | rfl <;> simpa [Expr.arranged] using hrow
  · rcases hkind with rfl | rfl | rfl <;> simp [Expr.parts, Expr.arranged]
  · simpa [Expr.Nested] using helem.nested

private theorem bound_fits {kind : ExprKind} (hkind : kind ∈ [.constant, .declaration])
    {name : Token}
    {span : Span} {lo : Nat} {type value : Expr} (hspan : span = ⟨file, lo, s.lastSpan.stop⟩)
    (hlt : lo < s.lastSpan.stop)
    (hname : lo ≤ name.span.start ∧ name.span.stop ≤ s.lastSpan.stop)
    (hrow : Rowed lo s.lastSpan.stop (type.ownSpans ++ value.ownSpans))
    (htype : type.Nested file) (hvalue : value.Nested file) :
    (s.built { kind, span, nameSpan := name.span, name := name.text, type, value }).Fits file lo
      s.lastSpan.stop := by
  simp only [List.mem_cons, List.not_mem_nil, or_false] at hkind
  apply built_fits hspan hlt
  · exact fun _ _ => hname
  · rcases hkind with rfl | rfl <;> simpa [Expr.arranged] using hrow
  · rcases hkind with rfl | rfl <;> simp [Expr.parts, Expr.arranged]
  · simp [Expr.Nested, htype, hvalue]

private theorem grouped_fits {bound : Nat} {span : Span} {entries : List Expr}
    {hlt : t.size < bound}
    {r : Step bound Expr} (h : (grouped t span entries hlt).outcome = .ok r) {lo : Nat}
    (hspan : span = ⟨file, lo, t.lastSpan.stop⟩) (hle : lo < t.lastSpan.stop)
    (hentries : Expr.FitAll file lo t.lastSpan.stop entries) :
    r.value.Fits file lo r.next.lastSpan.stop := by
  unfold grouped at h
  split at h
  · cases h
  · next first others =>
    split at h
    · next hsingle =>
      obtain ⟨hothers, -⟩ := Bool.and_eq_true_iff.mp hsingle
      obtain rfl := List.isEmpty_iff.mp hothers
      obtain rfl := Except.ok.inj h
      apply built_fits hspan hle
      · exact fun _ hname => absurd rfl hname
      · simpa [Expr.arranged] using hentries.row
      · simp [Expr.parts, Expr.arranged]
      · simpa [Expr.Nested] using hentries.nested
    · obtain ⟨_, _, h⟩ := Run.bind_eq_ok.mp h
      obtain rfl := Except.ok.inj h
      apply built_fits hspan hle
      · exact fun _ hname => absurd rfl hname
      · simpa [Expr.arranged] using hentries.row
      · simp +contextual [Expr.parts, Expr.arranged]
      · simpa [Expr.Nested] using hentries.nested

/-- The step led on, and its expression stands between `lo` and the last token. -/
structure Step.Fits {bound : Nat} (file : FileId) (size lo : Nat) (s : TokenStream)
    (r : Step bound Expr) : Prop where
  ahead : Ahead file size s r.next
  value : r.value.Fits file lo r.next.lastSpan.stop

structure Step.FitAll {bound : Nat} (file : FileId) (size : Nat) (s : TokenStream)
    (r : Step bound (List Expr)) : Prop where
  ahead : Ahead file size s r.next
  value : Expr.FitAll file s.front r.next.lastSpan.stop r.value

private theorem boundValue_fits {bound : Nat} {kind : ExprKind}
    (hkind : kind ∈ [.constant, .declaration])
    {name sep : Token} {u v : TokenStream} (hs : s.Lined file size)
    (hname : name.span = s.lastSpan) (hahead : Ahead file size s u) {type : Expr}
    (htype : type.Nested file) (hrow : Rowed s.lastSpan.start u.lastSpan.stop type.ownSpans)
    (hsep : TookFrom file size u sep v) {value : Step bound Expr}
    (hvalue : value.Fits file size v.front v) :
    (value.next.built
      { kind, span := name.span.cover value.next.lastSpan, nameSpan := name.span,
        name := name.text, type, value := value.value }).Fits file s.lastSpan.start
        value.next.lastSpan.stop := by
  have hle := hs.le
  have hall := hahead.trans ((hsep.ahead hahead.lined).trans hvalue.ahead)
  obtain ⟨-, -, hstart, hlt, hbefore, hafter⟩ := hsep
  have hin := hvalue.value.span
  have hstop := hahead.stop
  have hstop' := hall.stop
  refine bound_fits hkind ?_ (by omega) (by rw [hname]; omega) ?_ htype hvalue.value.nested
  · rw [hname]
    exact hall.cover hs
  · exact hrow.append hvalue.value.row (by omega) (by omega) (by omega)

mutual

private theorem expr_fits (s : TokenStream) (hs : s.Lined file size) {r : Step s.size Expr}
    (h : (expr s).outcome = .ok r) : r.Fits file size s.front s := by
  refine ⟨((expr_moves s).of_ok h).ahead hs, ?_⟩
  rw [expr, Run.outcome_entering] at h
  split at h
  · next name hname =>
    obtain ⟨hnext, hspan, hstart, hlt, -, -⟩ := hs.lookTake hname (by decide)
    have hlt' : name.next.size < s.size := by simpa using name.shorter
    rw [← hstart] at hlt ⊢
    rw [← look_lastSpan name.next] at hspan hlt ⊢
    dsimp only at h
    split at h
    · obtain ⟨r', hr', h⟩ := Run.bind_eq_ok.mp h
      obtain rfl := Except.ok.inj h
      exact binding_fits name.next.look hnext.look hspan hlt hr'
    · obtain ⟨r', hr', h⟩ := Run.bind_eq_ok.mp h
      obtain rfl := Except.ok.inj h
      have hleaf := name_fits hnext.look hspan hlt
      rw [hspan] at hr'
      exact postfixes_fits name.next.look.building hnext.look.building hnext.look.inFile le_rfl
        (hspan ▸ hleaf) hr'
  · exact (operand_fits s hs h).value
termination_by 8 * s.size + 3
decreasing_by all_goals (try simp only [look_size, building_size]); omega

private theorem operand_fits (s : TokenStream) (hs : s.Lined file size) {r : Step s.size Expr}
    (h : (operand s).outcome = .ok r) : r.Fits file size s.front s := by
  refine ⟨((operand_moves s).of_ok h).ahead hs, ?_⟩
  rw [operand, Run.outcome_entering] at h
  split at h
  · next opening hopening =>
    obtain ⟨hnext, hspan, hstart, hlt, -, -⟩ := hs.lookTake hopening (by decide)
    have hlt' : opening.next.size < s.size := by simpa using opening.shorter
    obtain ⟨r', hr', h⟩ := Run.bind_eq_ok.mp h
    obtain rfl := Except.ok.inj h
    rw [hspan] at hr'
    rw [← hstart] at hlt ⊢
    exact bracketType_fits opening.next hnext hlt hr'
  · next caret _ hcaret =>
    obtain ⟨hnext, hspan, hstart, hlt, -, hafter⟩ := hs.lookTake hcaret (by decide)
    have hlt' : caret.next.size < s.size := by simpa using caret.shorter
    obtain ⟨elem, helem, h⟩ := Run.bind_eq_ok.mp h
    obtain rfl := Except.ok.inj h
    obtain ⟨hahead, hvalue⟩ := operand_fits caret.next hnext helem
    have hcover := hahead.cover hnext
    rw [hstart, ← hspan] at hcover
    exact wrapper_fits (by decide) hcover (by omega) hvalue
  · next name _ _ hname =>
    obtain ⟨hnext, hspan, hstart, hlt, -, -⟩ := hs.lookTake hname (by decide)
    have hlt' : name.next.size < s.size := by simpa using name.shorter
    obtain ⟨r', hr', h⟩ := Run.bind_eq_ok.mp h
    obtain rfl := Except.ok.inj h
    rw [← hstart] at hlt ⊢
    have hleaf := name_fits hnext hspan hlt
    rw [hspan] at hr'
    exact postfixes_fits name.next.building hnext.building hnext.inFile le_rfl (hspan ▸ hleaf) hr'
  · obtain ⟨first, hfirst, h⟩ := Run.bind_eq_ok.mp h
    obtain ⟨r', hr', h⟩ := Run.bind_eq_ok.mp h
    obtain rfl := Except.ok.inj h
    have hlt' := first.shorter
    obtain ⟨hahead, hvalue⟩ := primary_fits s hs hfirst
    have hspan := hvalue.span
    have hfits := postfixes_fits first.next hahead.lined (hvalue.nested.file hvalue.present)
      hspan.2.2 ⟨hvalue.present, hvalue.nested, (Expr.rowed_ownSpans_iff hvalue.present).mpr
        ⟨le_rfl, hspan.2⟩⟩ hr'
    exact ⟨hfits.present, hfits.nested, hfits.row.mono hspan.1 le_rfl⟩
termination_by 8 * s.size + 2
decreasing_by all_goals (try simp only [building_size]); omega

private theorem ascription_fits (s : TokenStream) (hs : s.Lined file size)
    {r : Step (s.size + 1) Expr} (h : (ascription s).outcome = .ok r) :
    Ahead file size s r.next ∧ r.value.Nested file ∧
      Rowed s.front r.next.lastSpan.stop r.value.ownSpans := by
  refine ⟨((ascription_moves s).of_ok h).ahead hs, ?_⟩
  rw [ascription, Run.outcome_entering] at h
  split at h
  · obtain rfl := Except.ok.inj h
    exact ⟨trivial, .nil _ _⟩
  · obtain ⟨r', hr', h⟩ := Run.bind_eq_ok.mp h
    obtain rfl := Except.ok.inj h
    obtain ⟨-, hvalue⟩ := operand_fits s.look hs.look hr'
    rw [look_front] at hvalue
    exact ⟨hvalue.nested, hvalue.row⟩
termination_by 8 * s.size + 3
decreasing_by all_goals (try simp only [look_size]); omega

private theorem binding_fits {name : Token} (s : TokenStream) (hs : s.Lined file size)
    (hname : name.span = s.lastSpan) (hlt : s.lastSpan.start < s.lastSpan.stop)
    {r : Step s.size Expr} (h : (binding name s).outcome = .ok r) :
    r.value.Fits file s.lastSpan.start r.next.lastSpan.stop := by
  rw [binding, Run.outcome_entering] at h
  split at h
  · cases h
  · next colon hcolon =>
    have htook := hs.take hcolon (by decide)
    have hsize := colon.shorter
    obtain ⟨typed, htyped, h⟩ := Run.bind_eq_ok.mp h
    have hsize' := typed.shorter
    obtain ⟨hahead, htype, hrow⟩ := ascription_fits colon.next htook.lined htyped
    have hcolon' := htook.ahead hs
    have hall := hcolon'.trans hahead
    have hfirst := hs.stop_le_front
    replace hrow := hrow.mono (hlt.le.trans (hfirst.trans hcolon'.front)) le_rfl
    dsimp only at h
    split at h
    · next second hsecond =>
      have hsep := hall.lined.lookTake hsecond (by decide)
      have hsize'' : second.next.size < typed.next.size := by simpa using second.shorter
      obtain ⟨value, hvalue, h⟩ := Run.bind_eq_ok.mp h
      obtain rfl := Except.ok.inj h
      have hfits := expr_fits second.next hsep.lined hvalue
      exact boundValue_fits (by decide) hs hname hall htype hrow hsep hfits
    · next equals _ hequals =>
      have hsep := hall.lined.lookTake hequals (by decide)
      have hsize'' : equals.next.size < typed.next.size := by simpa using equals.shorter
      obtain ⟨value, hvalue, h⟩ := Run.bind_eq_ok.mp h
      obtain rfl := Except.ok.inj h
      have hfits := expr_fits equals.next hsep.lined hvalue
      exact boundValue_fits (by decide) hs hname hall htype hrow hsep hfits
    · obtain rfl := Except.ok.inj h
      have hseen := hall.trans ((Move.look typed.next).ahead hall.lined)
      have hstop := hseen.stop
      refine bound_fits (by decide) (hname ▸ hseen.cover hs) (by omega) (by rw [hname]; omega) ?_
        htype trivial
      simpa using hrow
termination_by 8 * s.size
decreasing_by all_goals omega

private theorem primary_fits (s : TokenStream) (hs : s.Lined file size) {r : Step s.size Expr}
    (h : (primary s).outcome = .ok r) : r.Fits file size s.front s := by
  refine ⟨((primary_moves s).of_ok h).ahead hs, ?_⟩
  rw [primary, Run.outcome_entering] at h
  split at h
  · next literal hliteral =>
    obtain ⟨hnext, hspan, hstart, hlt, -, -⟩ := hs.lookTake hliteral (by decide)
    obtain rfl := Except.ok.inj h
    rw [← hstart] at hlt ⊢
    apply built_fits _ hlt
    · exact fun hkind => absurd rfl hkind
    · exact .nil _ _
    · simp
    · simp [Expr.Nested]
    · rw [hspan, ← hnext.inFile]
  · next opening _ hopening =>
    obtain ⟨hnext, hspan, hstart, hlt, -, -⟩ := hs.lookTake hopening (by decide)
    have hlt' : opening.next.size < s.size := by simpa using opening.shorter
    obtain ⟨r', hr', h⟩ := Run.bind_eq_ok.mp h
    obtain rfl := Except.ok.inj h
    rw [hspan] at hr'
    rw [← hstart] at hlt ⊢
    exact parenthesised_fits opening.next hnext hlt hr'
  · next opening _ _ hopening =>
    obtain ⟨hnext, hspan, hstart, hlt, -, -⟩ := hs.lookTake hopening (by decide)
    have hlt' : opening.next.size < s.size := by simpa using opening.shorter
    obtain ⟨r', hr', h⟩ := Run.bind_eq_ok.mp h
    obtain rfl := Except.ok.inj h
    rw [hspan] at hr'
    rw [← hstart] at hlt ⊢
    exact (block_fits opening.next hnext hlt hr').value
  · cases h
termination_by 8 * s.size + 1
decreasing_by all_goals omega

private theorem postfixes_fits {start : Span} {e : Expr} (s : TokenStream) (hs : s.Lined file size)
    (hfile : start.file = file) (hstop : start.stop ≤ s.lastSpan.stop)
    (he : e.Fits file start.start s.lastSpan.stop) {r : Step (s.size + 1) Expr}
    (h : (postfixes start e s).outcome = .ok r) :
    r.value.Fits file start.start r.next.lastSpan.stop := by
  have hspan := he.span
  rw [postfixes, Run.outcome_entering] at h
  split at h
  · next opening hopening =>
    obtain ⟨hnext, -, hstart, hlt, hbefore, hafter⟩ := hs.lookTake hopening (by decide)
    have hlt' : opening.next.size < s.size := by simpa using opening.shorter
    obtain ⟨args, hargs, h⟩ := Run.bind_eq_ok.mp h
    have hlt'' := args.shorter
    obtain ⟨r', hr', h⟩ := Run.bind_eq_ok.mp h
    obtain rfl := Except.ok.inj h
    obtain ⟨⟨hlined, hstart', hstop', -, -⟩, hvalue⟩ := arguments_fits opening.next hnext hargs
    refine postfixes_fits args.next.building hlined.building hfile (by simp; omega) ?_ hr'
    apply built_fits (hlined.cover hfile (by omega) (by omega)) (by omega)
    · exact fun _ hname => absurd rfl hname
    · simpa [Expr.arranged] using he.row.append hvalue.row (by omega) (by omega) (by omega)
    · simp +contextual [Expr.parts, Expr.arranged]
    · simpa [Expr.Nested, he.nested] using hvalue.nested
  · next dot _ hdot =>
    obtain ⟨hnext, -, hstart, hlt, hbefore, hafter⟩ := hs.lookTake hdot (by decide)
    have hlt' : dot.next.size < s.size := by simpa using dot.shorter
    obtain ⟨member, hmember, h⟩ := Run.bind_eq_ok.mp h
    have hlt'' : member.next.size < dot.next.size := by simpa using member.shorter
    obtain ⟨r', hr', h⟩ := Run.bind_eq_ok.mp h
    obtain rfl := Except.ok.inj h
    have hfound := (expect_moves .refl _ _).of_ok hmember
    obtain ⟨hlined, hname, hstart', hlt₃, -, -⟩ := hnext.lookTake hfound (by decide)
    refine postfixes_fits member.next.building hlined.building hfile (by simp; omega) ?_ hr'
    apply built_fits (hlined.cover hfile (by omega) (by omega)) (by omega)
    · intro _ _
      simp only [hname]
      omega
    · simpa [Expr.arranged] using he.row.mono le_rfl (by omega)
    · simp [Expr.parts, Expr.arranged]
    · simpa [Expr.Nested] using he.nested
  · obtain rfl := Except.ok.inj h
    simpa using he
termination_by 8 * s.size
decreasing_by all_goals (try simp only [building_size]); omega

private theorem arguments_fits (s : TokenStream) (hs : s.Lined file size)
    {r : Step s.size (List Expr)} (h : (arguments s).outcome = .ok r) : r.FitAll file size s := by
  refine ⟨((arguments_moves s).of_ok h).moves.ahead hs, ?_⟩
  rw [arguments, Run.outcome_entering] at h
  have hskip := (s.skip_moves isNewline_ordinary).ahead hs
  have hle := (s.skip isNewline).2
  obtain ⟨entries, hentries, h⟩ := Run.bind_eq_ok.mp h
  obtain ⟨closing, hclosing, h⟩ := Run.bind_eq_ok.mp h
  obtain rfl := Except.ok.inj h
  obtain ⟨hahead, hvalue⟩ := argumentEntries_fits (s.skip isNewline).1 hskip.lined hentries
  have hfound := (expect_moves .refl _ _).of_ok hclosing
  obtain ⟨-, -, -, hlt, hbefore, -⟩ := hahead.lined.lookTake hfound (by decide)
  exact hvalue.mono hskip.front (hbefore.trans hlt.le)
termination_by 8 * s.size + 5
decreasing_by all_goals omega

private theorem argumentEntries_fits (s : TokenStream) (hs : s.Lined file size)
    {r : Step (s.size + 1) (List Expr)} (h : (argumentEntries s).outcome = .ok r) :
    r.FitAll file size s := by
  refine ⟨((argumentEntries_moves s).of_ok h).ahead hs, ?_⟩
  rw [argumentEntries, Run.outcome_entering] at h
  split at h
  · obtain rfl := Except.ok.inj h
    exact .nil _ _ _
  · obtain ⟨first, hfirst, h⟩ := Run.bind_eq_ok.mp h
    have hlt : first.next.size < s.size := by simpa using first.shorter
    have hle := (first.next.skip isNewline).2
    obtain ⟨hahead, hvalue⟩ := expr_fits s.look hs.look hfirst
    rw [look_front] at hvalue
    have hskip := (first.next.skip_moves isNewline_ordinary).ahead hahead.lined
    obtain ⟨hlined, -, hstop, -, -⟩ := hskip
    dsimp only at h
    split at h
    · obtain rfl := Except.ok.inj h
      exact hvalue.cons (.nil _ _ _) le_rfl hstop
    · next comma hcomma =>
      obtain ⟨hnext, -, -, hlt', hbefore, hafter⟩ := hlined.take hcomma (by decide)
      have hlt'' := comma.shorter
      have hle' := (comma.next.skip isNewline).2
      obtain ⟨others, hothers, h⟩ := Run.bind_eq_ok.mp h
      obtain rfl := Except.ok.inj h
      have hskip' := (comma.next.skip_moves isNewline_ordinary).ahead hnext
      obtain ⟨hlined', -, hstop', hfront', -⟩ := hskip'
      obtain ⟨⟨-, -, hstop'', -, -⟩, hrest⟩ :=
        argumentEntries_fits (comma.next.skip isNewline).1 hlined' hothers
      have hlast : first.next.lastSpan.stop ≤ others.next.lastSpan.stop := by omega
      exact hvalue.cons hrest (by omega) hlast
termination_by 8 * s.size + 4
decreasing_by all_goals (try simp only [look_size]); omega

private theorem parenthesised_fits (s : TokenStream) (hs : s.Lined file size)
    (hlt : s.lastSpan.start < s.lastSpan.stop) {r : Step s.size Expr}
    (h : (parenthesised s.lastSpan s).outcome = .ok r) :
    r.value.Fits file s.lastSpan.start r.next.lastSpan.stop := by
  rw [parenthesised, Run.outcome_entering] at h
  obtain ⟨args, hargs, h⟩ := Run.bind_eq_ok.mp h
  have hsize := args.shorter
  have hfront := hs.stop_le_front
  obtain ⟨⟨hlined, hstart, hstop, hahead, -⟩, hlist⟩ := arguments_fits s hs hargs
  dsimp only at h
  split at h
  · next arrow harrow =>
    obtain ⟨hnext, -, hstart', hlt', hbefore, hafter⟩ := hlined.lookTake harrow (by decide)
    have hsize' : arrow.next.size < args.next.size := by simpa using arrow.shorter
    obtain ⟨_, _, h⟩ := Run.bind_eq_ok.mp h
    obtain ⟨ret, hret, h⟩ := Run.bind_eq_ok.mp h
    have hsize'' := ret.shorter
    obtain ⟨⟨hlined', hstart'', hstop'', -, -⟩, htype⟩ := operand_fits arrow.next hnext hret
    have hrow := hlist.row.append htype.row (by omega) (by omega) (by omega)
    split at h
    · obtain rfl := Except.ok.inj h
      rw [← look_lastSpan ret.next] at hstart'' hstop'' hrow
      apply built_fits (hlined'.look.cover hs.inFile (by omega) (by omega)) (by omega)
      · exact fun _ hname => absurd rfl hname
      · simpa [Expr.arranged] using hrow.mono (by omega) le_rfl
      · simp +contextual [Expr.parts, Expr.arranged]
      · exact ⟨htype.nested, trivial, trivial, hlist.nested⟩
    · next opening hopening =>
      obtain ⟨hnext', hspan, hstart₃, hlt₃, hbefore', hafter'⟩ :=
        hlined'.lookTake hopening (by decide)
      have hsize₃ : opening.next.size < ret.next.size := by simpa using opening.shorter
      obtain ⟨body, hbody, h⟩ := Run.bind_eq_ok.mp h
      obtain rfl := Except.ok.inj h
      rw [hspan] at hbody
      obtain ⟨⟨hlined₃, hstart₄, hstop₄, -, -⟩, hvalue⟩ :=
        block_fits opening.next hnext' (by omega) hbody
      apply built_fits (hlined₃.cover hs.inFile (by omega) (by omega)) (by omega)
      · exact fun _ hname => absurd rfl hname
      · have hall := hrow.append hvalue.row (by omega) (by omega) (by omega)
        simpa [Expr.arranged] using hall.mono (by omega) le_rfl
      · simp +contextual [Expr.parts, Expr.arranged]
      · exact ⟨htype.nested, trivial, hvalue.nested, hlist.nested⟩
  · rw [← look_lastSpan args.next] at hstart hstop hlist h
    exact grouped_fits h (hlined.look.cover hs.inFile hstart hstop) (by omega)
      (hlist.mono (by omega) le_rfl)
termination_by 8 * s.size + 6
decreasing_by all_goals omega

private theorem block_fits (s : TokenStream) (hs : s.Lined file size)
    (hlt : s.lastSpan.start < s.lastSpan.stop) {r : Step s.size Expr}
    (h : (block s.lastSpan s).outcome = .ok r) : r.Fits file size s.lastSpan.start s := by
  refine ⟨((block_moves _ s).of_ok h).ahead hs, ?_⟩
  rw [block, Run.outcome_entering] at h
  obtain ⟨entries, hentries, h⟩ := Run.bind_eq_ok.mp h
  obtain rfl := Except.ok.inj h
  have hfront := hs.stop_le_front
  obtain ⟨hahead, hlist⟩ := blockEntries_fits s hs hentries
  have hstop := hahead.stop
  apply built_fits (hahead.cover hs) (by omega)
  · exact fun _ hname => absurd rfl hname
  · simpa [Expr.arranged] using hlist.row.mono (by omega) le_rfl
  · simp +contextual [Expr.parts, Expr.arranged]
  · simpa [Expr.Nested] using hlist.nested
termination_by 8 * s.size + 5
decreasing_by all_goals omega

private theorem blockEntries_fits (s : TokenStream) (hs : s.Lined file size)
    {r : Step s.size (List Expr)}
    (h : (blockEntries s).outcome = .ok r) : r.FitAll file size s := by
  refine ⟨((blockEntries_moves s).of_ok h).ahead hs, ?_⟩
  rw [blockEntries, Run.outcome_entering] at h
  have hle := (s.skip TokenKind.isSeparator).2
  have hskip := (s.skip_moves isSeparator_ordinary).ahead hs
  dsimp only at h
  split at h
  · obtain rfl := Except.ok.inj h
    exact .nil _ _ _
  · obtain ⟨first, hfirst, h⟩ := Run.bind_eq_ok.mp h
    have hlt := first.shorter
    obtain ⟨u, hu, h⟩ := Run.bind_eq_ok.mp h
    have hle' := u.2
    obtain ⟨hahead, hvalue⟩ := expr_fits (s.skip TokenKind.isSeparator).1 hskip.lined hfirst
    have hend := ((endItem_moves .refl).of_ok hu).look.ahead hahead.lined
    split at h
    case h_4 =>
      obtain ⟨others, hothers, h⟩ := Run.bind_eq_ok.mp h
      obtain rfl := Except.ok.inj h
      obtain ⟨hahead', hrest⟩ := blockEntries_fits u.1.look hend.lined hothers
      exact (hvalue.cons hrest (hend.stop.trans hend.after) (hend.stop.trans hahead'.stop)).mono
        hskip.front le_rfl
    all_goals cases h
termination_by 8 * s.size + 4
decreasing_by all_goals (try simp only [look_size]); omega

private theorem bracketType_fits (s : TokenStream) (hs : s.Lined file size)
    (hlt : s.lastSpan.start < s.lastSpan.stop) {r : Step s.size Expr}
    (h : (bracketType s.lastSpan s).outcome = .ok r) :
    r.value.Fits file s.lastSpan.start r.next.lastSpan.stop := by
  have hle := hs.le
  rw [bracketType, Run.outcome_entering] at h
  dsimp only at h
  split at h
  · next closing hclosing =>
    obtain ⟨hnext, -, hstart, hlt', hbefore, hafter⟩ := hs.lookTake hclosing (by decide)
    have hsize : closing.next.size < s.size := by simpa using closing.shorter
    obtain ⟨elem, helem, h⟩ := Run.bind_eq_ok.mp h
    obtain rfl := Except.ok.inj h
    obtain ⟨⟨hlined, hstart', hstop', -, -⟩, hvalue⟩ := operand_fits closing.next hnext helem
    exact wrapper_fits (by decide) (hlined.cover hs.inFile (by omega) (by omega)) (by omega) hvalue
  · next caret _ hcaret =>
    obtain ⟨hnext, -, hstart, hlt', hbefore, hafter⟩ := hs.lookTake hcaret (by decide)
    have hsize : caret.next.size < s.size := by simpa using caret.shorter
    obtain ⟨closing, hclosing, h⟩ := Run.bind_eq_ok.mp h
    have hsize' : closing.next.size < caret.next.size := by simpa using closing.shorter
    have hfound := (expect_moves .refl _ _).of_ok hclosing
    obtain ⟨hnext', -, hstart', hlt'', -, hafter'⟩ := hnext.lookTake hfound (by decide)
    obtain ⟨elem, helem, h⟩ := Run.bind_eq_ok.mp h
    obtain rfl := Except.ok.inj h
    obtain ⟨⟨hlined, hstart'', hstop'', -, -⟩, hvalue⟩ := operand_fits closing.next hnext' helem
    exact wrapper_fits (by decide) (hlined.cover hs.inFile (by omega) (by omega)) (by omega) hvalue
  · obtain ⟨length, hlength, h⟩ := Run.bind_eq_ok.mp h
    have hsize : length.next.size < s.size := by simpa using length.shorter
    obtain ⟨hahead, hfirst⟩ := operand_fits s.look hs.look hlength
    obtain ⟨hlined, hstart, hstop, -, -⟩ := hahead
    rw [look_front] at hfirst
    rw [look_lastSpan] at hstart hstop
    have hfront := hs.stop_le_front
    obtain ⟨closing, hclosing, h⟩ := Run.bind_eq_ok.mp h
    have hsize' : closing.next.size < length.next.size := by simpa using closing.shorter
    have hfound := (expect_moves .refl _ _).of_ok hclosing
    obtain ⟨hnext', -, hstart', hlt'', hbefore, hafter'⟩ := hlined.lookTake hfound (by decide)
    obtain ⟨elem, helem, h⟩ := Run.bind_eq_ok.mp h
    obtain rfl := Except.ok.inj h
    obtain ⟨⟨hlined', hstart'', hstop'', -, -⟩, hvalue⟩ := operand_fits closing.next hnext' helem
    have hin := hfirst.span
    apply built_fits (hlined'.cover hs.inFile (by omega) (by omega)) (by omega)
    · exact fun _ hname => absurd rfl hname
    · have hrow := hfirst.row.append hvalue.row (by omega) (by omega) (by omega)
      simpa [Expr.arranged] using hrow.mono (by omega) le_rfl
    · simp [Expr.parts, Expr.arranged]
    · simp [Expr.Nested, hfirst.nested, hvalue.nested]
termination_by 8 * s.size + 4
decreasing_by all_goals (try simp only [look_size]); omega

end

private theorem items_fits (s : TokenStream) (hs : s.Lined file size)
    (h : (items s).failed = false) : Ahead file size s (items s).last ∧
      Expr.FitAll file s.front (items s).last.lastSpan.stop (items s).items := by
  have hmoves := items_moves s
  rw [if_neg (by simp [h])] at hmoves
  refine ⟨hmoves.1.ahead hs, ?_⟩
  have hskip := (s.skip_moves isSeparator_ordinary).ahead hs
  have hle := (s.skip TokenKind.isSeparator).2
  clear hmoves
  revert h
  rw [items]
  dsimp only
  split
  · exact fun _ => .nil _ _ _
  · split
    · simp
    · next first hfirst =>
      have hlt := first.shorter
      obtain ⟨hahead, hvalue⟩ := expr_fits (s.skip TokenKind.isSeparator).1 hskip.lined hfirst
      split
      · simp
      · next u hu hend =>
        intro hfailed
        have hended := ((endItem_moves .refl).of_ok hend).ahead hahead.lined
        obtain ⟨hlast, hrest⟩ := items_fits u hended.lined hfailed
        exact (hvalue.cons hrest (hended.stop.trans hended.after)
          (hended.stop.trans hlast.stop)).mono hskip.front le_rfl
termination_by s.size
decreasing_by omega

/-- Items are nested whether or not the parse goes wrong after them. -/
theorem items_nested (s : TokenStream) (hs : s.Lined file size) :
    ∀ e ∈ (items s).items, e.Nested file := by
  have hskip := (s.skip_moves isSeparator_ordinary).ahead hs
  have hle := (s.skip TokenKind.isSeparator).2
  rw [items]
  dsimp only
  split
  · simp
  · split
    · simp
    · next first hfirst =>
      have hlt := first.shorter
      obtain ⟨hahead, hvalue⟩ := expr_fits (s.skip TokenKind.isSeparator).1 hskip.lined hfirst
      split
      · simpa using hvalue.nested
      · next u hu hend =>
        have hended := ((endItem_moves .refl).of_ok hend).ahead hahead.lined
        rw [List.forall_mem_cons]
        exact ⟨hvalue.nested, items_nested u hended.lined⟩
termination_by s.size
decreasing_by omega

end Syntax

theorem SourceFile.parse_items_nested (f : SourceFile) :
    ∀ e ∈ f.parse.file.items, e.Nested f.id := by
  let start : TokenStream := { rest := f.tokens, lastSpan := { file := f.id } }
  have hstart : start.Lined f.id f.content.length := ⟨rfl, le_rfl, f.tokens_row⟩
  exact Syntax.items_nested start.look hstart.look

/-- The spans of a file that is parsed without an error pass the span check. At every node the parts
come one after the other in source order, and so do the items of the file, so that an outline lists
nodes in the order in which they start. -/
theorem SourceFile.parse_nested (f : SourceFile) (hparsed : f.parse.failed = false) :
    f.parse.file.checkSpans f = .ok () ∧
    Expr.AllNested f.id f.parse.file.items ∧
    (f.parse.file.items.flatMap Expr.ownSpans).Pairwise (·.stop ≤ ·.start) ∧
    (Expr.collectAll Expr.startOf 0 f.parse.file.items).Pairwise (· ≤ ·) := by
  let start : TokenStream := { rest := f.tokens, lastSpan := { file := f.id } }
  let first := (f.tokens.head?.map Token.span).getD { file := f.id }
  have hrow := f.tokens_row
  have hstart : start.Lined f.id f.content.length := ⟨rfl, le_rfl, hrow⟩
  have hfailed : (Syntax.items start.look).failed = false := hparsed
  obtain ⟨hahead, hitems⟩ := Syntax.items_fits start.look hstart.look hfailed
  rw [TokenStream.look_front] at hitems
  have hnested := Expr.allNested_iff.mpr hitems.nested
  -- The first token lies in the file, and so does the one taken last.
  have hfirst : first.file = f.id ∧ first.start = start.front ∧ first.stop ≤ f.content.length := by
    unfold first TokenStream.front
    cases htokens : f.tokens with
    | nil => simp [start, htokens]
    | cons t rest =>
      rw [htokens] at hrow
      obtain ⟨hfile, -, -, -, hrest⟩ := hrow
      simpa [start, htokens, hfile] using hrest.le
  have hlast := hahead.lined.tokens.le
  have hspan : f.parse.file.span = first.cover (Syntax.items start.look).last.lastSpan :=
    if_neg (Bool.eq_false_iff.mp hfailed)
  have hcover : first.cover (Syntax.items start.look).last.lastSpan =
      ⟨f.id, min first.start (Syntax.items start.look).last.lastSpan.start,
        max first.stop (Syntax.items start.look).last.lastSpan.stop⟩ := by
    unfold Span.cover
    rw [if_pos (hfirst.1.trans hahead.lined.inFile.symm), hfirst.1]
  refine ⟨?_, hnested, hitems.row.inOrder, Expr.collectAll_starts hnested hitems.row 0⟩
  apply SyntaxFile.checkSpans_ok hnested
  · rw [hspan, hcover]
    exact hitems.row.mono (by simp [hfirst.2.1]) (by simp)
  · rw [hspan, hcover]
  · rw [hspan, hcover]
    exact max_le hfirst.2.2 hlast

/-- A program with a procedure, a member of a slice, an array type and a block that spans lines. -/
theorem SourceFile.parse_nested_program :
    let f : SourceFile := {
      id := 1
      path := "main.nkl"
      content := "Row :: [(4)]u8\n\nmain :: (args: []Row) -> int \x7b\n" ++
        "  n: uint = args.length; int(n,)\n\n\x7d // end\n" }
    f.parse.failed = false ∧ f.parse.file.checkSpans f = .ok () ∧
      (Expr.collectAll Expr.startOf 0 f.parse.file.items).length = 19 ∧
      (Expr.collectAll Expr.startOf 0 f.parse.file.items).Pairwise (· ≤ ·) := by
  intro f
  have hparsed : f.parse.failed = false := by decide +kernel
  obtain ⟨hcheck, -, -, hstarts⟩ := parse_nested f hparsed
  exact ⟨hparsed, hcheck, by decide +kernel, hstarts⟩

end Keywordless
