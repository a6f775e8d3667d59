import Keywordless.Proofs.CompileOutcome
import Keywordless.Proofs.LineLocality
import Keywordless.Proofs.SplitFiles
import Keywordless.Proofs.WordBreaks

/-!
# Types as they are written

The text of a type says which type it is. Reports never show two different types by one text, and a
type without procedures in it is read back from its text: lexing, parsing and binding the text give
the handle that the type has.
-/

namespace Keywordless

/-! ### Two types are never written alike -/

namespace BindProblem

variable {problem : BindProblem} {a b : Bytes}

private theorem typeTexts_shown (h : problem.typeTexts? = some (a, b)) :
    a <:+: problem.message ∧ b <:+: problem.message := by
  have hinner (xs ys zs ws : Bytes) : ys <:+: xs ++ ys ++ zs ++ ws := by
    rw [List.append_assoc (xs ++ ys)]
    exact List.infix_append xs ys (zs ++ ws)
  have hlast (xs ys : Bytes) : ys <:+: xs ++ ys := (List.suffix_append xs ys).isInfix
  cases problem <;> cases h <;> exact ⟨hinner _ _ _ _, hlast _ _⟩

private theorem typeTexts_ne (hreachable : problem.isReachable)
    (h : problem.typeTexts? = some (a, b)) : a ≠ b := by
  unfold isReachable at hreachable
  split at hreachable
  · cases h
  · simpa [h] using hreachable

end BindProblem

/-- The ways to work on a universe that can end with a report. -/
inductive BindM.Reporting : BindM FrameTable NodeId → Prop
  | file (f : SyntaxFile) : Reporting f.bind
  | entry (file : FileId) : Reporting (Entry.check file)

private theorem BindM.Reporting.reachable {action : BindM FrameTable NodeId} (h : action.Reporting)
    {s : BindState FrameTable} (hs : s.world.Reached) {e : BindFailure}
    (he : (action.exec s).1 = .error e) : e.isReachable := by
  obtain ⟨roots, hsound⟩ := hs.sound
  cases h with
  | file f =>
    have hended : SyntaxFile.Ended roots False (f.bind.exec s).1 (f.bind.exec s).2.world :=
      (f.bind_ended hsound False.elim).2
    rw [he] at hended
    cases hended with
    | failed _ _ hreachable => exact hreachable
  | entry file =>
    have hleads : BindM.Leads roots False s.world (Entry.check file) fun id v =>
      v.graph.Issued id := Entry.check_leads file hsound
    obtain ⟨-, -, hresult⟩ := hleads s rfl
    rw [he] at hresult
    exact hresult.2

def BindFailure.mismatch? : Except BindFailure NodeId → Option (Bytes × Bytes)
  | .error (.error e) => e.problem.typeTexts?
  | _ => none

private theorem BindFailure.mismatch?_eq_some_iff {result : Except BindFailure NodeId}
    {a b : Bytes} : mismatch? result = some (a, b) ↔
      ∃ e : BindError, result = .error (.error e) ∧ e.problem.typeTexts? = some (a, b) := by
  cases result with
  | ok id => simp [mismatch?]
  | error failure => cases failure <;> simp [mismatch?]

/-- The text of a type says which type it is: in every store that can come about, two types are
written alike only if they are the same. So a report about two types that should be one shows two
texts that differ. -/
theorem TypeStore.format_unambiguous :
    (∀ tag requests,
      let s := ((seeded tag).internAll requests).2
      ∀ a b, s.Issued a → s.Issued b → ∃ text text',
        s.format a = .ok text ∧ s.format b = .ok text' ∧ (text = text' ↔ a = b)) ∧
    ∀ (action : BindM FrameTable NodeId) (s : BindState FrameTable) (file : FileId) (a b : Bytes),
      action.Reporting → s.world.Reached →
      BindFailure.mismatch? (action.exec s).1 = some (a, b) →
      a ≠ b ∧ ∃ d, BindFailure.reports file (action.exec s).1 = [d] ∧
        a <:+: d.message ∧ b <:+: d.message := by
  constructor
  · intro tag requests s a b ha hb
    have hs : s.Canonical := internAll_canonical (seeded_canonical tag) requests
    obtain ⟨text, htext⟩ := format_total hs ha
    obtain ⟨text', htext'⟩ := format_total hs hb
    have hiff := hs.format_eq_iff ha hb
    rw [htext, htext', Except.ok.injEq] at hiff
    exact ⟨text, text', htext, htext', hiff⟩
  · intro action s file a b haction hs hmismatch
    obtain ⟨e, he, htexts⟩ := BindFailure.mismatch?_eq_some_iff.mp hmismatch
    have hreachable : e.problem.isReachable := haction.reachable hs he
    rw [he]
    exact ⟨BindProblem.typeTexts_ne hreachable htexts, e.diagnostic, rfl,
      BindProblem.typeTexts_shown htexts⟩

private def twoProcedures : List Ty :=
  [.procedure [⟨1, 5⟩] ⟨1, 3⟩, .procedure [⟨1, 6⟩] ⟨1, 2⟩, .procedure [⟨1, 3⟩] ⟨1, 2⟩,
    .procedure [⟨1, 5⟩] ⟨1, 8⟩]

private def misjudged : SourceFile :=
  { id := 0, path := "a.nkl", content := "x : ^[]u8 : [^][]u8" }

/-- The two procedures are written with the same names in the same order, and apart. The report on
the constant shows both types. -/
theorem TypeStore.format_unambiguous_misjudged :
    (let s := ((seeded 1).internAll twoProcedures).2
    let taken : Bytes := "((u8) -> int) -> void"
    let returned : Bytes := "(u8) -> (int) -> void"
    s.format ⟨1, 7⟩ = .ok taken ∧ s.format ⟨1, 9⟩ = .ok returned ∧ taken ≠ returned) ∧
    let s : BindState FrameTable := ⟨.ofFiles ⟨#[misjudged]⟩, {}, 0⟩
    let result := (misjudged.parse.file.bind.exec s).1
    let declared : Bytes := "^[]u8"
    let actual : Bytes := "type"
    BindFailure.mismatch? result = some (declared, actual) ∧ declared ≠ actual ∧
      ∃ d, BindFailure.reports 0 result = [d] ∧
        declared <:+: d.message ∧ actual <:+: d.message := by
  constructor
  · intro s taken returned
    have htaken : s.format ⟨1, 7⟩ = .ok taken := by decide +kernel
    have hreturned : s.format ⟨1, 9⟩ = .ok returned := by decide +kernel
    obtain ⟨text, text', htext, htext', hiff⟩ :=
      format_unambiguous.1 1 twoProcedures ⟨1, 7⟩ ⟨1, 9⟩ ⟨_, rfl⟩ ⟨_, rfl⟩
    obtain rfl := Except.ok.inj (htaken.symm.trans htext)
    obtain rfl := Except.ok.inj (hreturned.symm.trans htext')
    exact ⟨htext, htext', mt hiff.mp (by decide)⟩
  · intro s result declared actual
    have hmismatch : BindFailure.mismatch? result = some (declared, actual) := by decide +kernel
    exact ⟨hmismatch, format_unambiguous.2 _ _ 0 _ _ (.file _) (.fresh _) hmismatch⟩

/-! ### Reading the text of a type -/

/-- A primitive type inside wrappers, the outermost one first. -/
def TyTerm.nested (ws : List Wrapper) (p : Primitive) : TyTerm := ws.foldr wrapped (primitive p)

def Wrapper.exprKind : Wrapper → ExprKind
  | slice => .sliceType
  | pointer => .pointerType
  | multipointer => .multipointerType

namespace Grammar

def nestedTree (p : Primitive) : List Wrapper → Expr
  | [] => Tree.expr { kind := .name, name := p.name }
  | w :: ws => Tree.expr { kind := w.exprKind, type := nestedTree p ws }

end Grammar

def soleTokens : List (UInt8 × TokenKind) :=
  [(0x3A, .colon), (0x5B, .lbracket), (0x5D, .rbracket), (0x5E, .caret)]

section Reading

open Grammar

variable (file : FileId) {size : Nat} {source rest : Bytes} {b : UInt8} {k : TokenKind}

private theorem length_of_afterTrivia (hsize : source.length ≤ size)
    (hsource : afterTrivia source = b :: rest) : rest.length ≤ size := by
  have hall := triviaSize_add_length source
  rw [hsource, List.length_cons] at hall
  omega

theorem tokensAt_sole (hsize : source.length ≤ size) (hb : (b, k) ∈ soleTokens)
    (hsource : afterTrivia source = b :: rest) :
    ∃ token, token.kind = k ∧ tokensAt file size source = token :: tokensAt file size rest := by
  obtain ⟨leading, htokens⟩ := tokensAt_read file hsize hsource
  have hlexeme : (Lexeme.ofBytes b rest).kind = k ∧ (Lexeme.ofBytes b rest).size = 1 := by
    simp only [soleTokens, List.mem_cons, Prod.mk.injEq, List.not_mem_nil, or_false] at hb
    rcases hb with ⟨rfl, rfl⟩ | ⟨rfl, rfl⟩ | ⟨rfl, rfl⟩ | ⟨rfl, rfl⟩ <;> exact ⟨rfl, rfl⟩
  have hrest : afterLexeme b rest = rest := by
    rw [afterLexeme, hlexeme.2]
    rfl
  rw [htokens, hrest]
  exact ⟨_, hlexeme.1, rfl⟩

private theorem afterTrivia_nested (ws : List Wrapper) (p : Primitive) :
    afterTrivia (TyTerm.nested ws p).text = (TyTerm.nested ws p).text := by
  cases ws with
  | nil => cases p <;> exact afterTrivia_other rfl rfl
  | cons w ws => cases w <;> exact afterTrivia_other rfl rfl

theorem tokensAt_word (word next : Bytes) (hsize : source.length ≤ size)
    (hsource : afterTrivia source = word ++ next) (hfirst : word.head?.any isIdentStartByte = true)
    (hword : word.all isIdentByte = true) (hnext : continuesName next = false) :
    ∃ token, token.kind = .ident ∧ token.text = word ∧
      tokensAt file size source = token :: tokensAt file size next := by
  cases word with
  | nil => cases hfirst
  | cons first tail =>
    have hbytes : ∀ b ∈ tail, isIdentByte b = true := fun b hb =>
      List.all_eq_true.mp hword b (List.mem_cons_of_mem _ hb)
    have hlexeme := Lexeme.ofBytes_start (by simpa using hfirst) (tail ++ next)
    have hlength : (Lexeme.ofBytes first (tail ++ next)).size = (first :: tail).length := by
      rw [hlexeme]
      change 1 + identTail (tail ++ next) = tail.length + 1
      rw [identTail_word hbytes hnext, Nat.add_comm]
    have hascii : Bytes.isAsciiText (first :: tail) = true := by
      apply List.all_eq_true.mpr
      intro b hb
      simpa using isIdentByte_ascii (List.all_eq_true.mp hword b hb)
    have htext : (Lexeme.ofBytes first (tail ++ next)).text = first :: tail := by
      rw [hlexeme] at hlength ⊢
      change Lexeme.spelled _ ((first :: tail ++ next).take (Lexeme.name 1 _).size) = first :: tail
      rw [hlength, List.take_left, Lexeme.spelled, if_pos hascii]
    obtain ⟨leading, htokens⟩ := tokensAt_read file hsize hsource
    have hrest : afterLexeme first (tail ++ next) = next := by
      rw [afterLexeme, hlength]
      exact List.drop_left
    rw [List.append_eq, hrest] at htokens
    exact ⟨_, congrArg Lexeme.kind hlexeme, htext, htokens⟩

theorem name_isWord (p : Primitive) :
    p.name.head?.any isIdentStartByte = true ∧ p.name.all isIdentByte = true := by
  cases p <;> decide

private theorem tokensAt_primitive (p : Primitive) (hsize : source.length ≤ size)
    (hsource : afterTrivia source = p.name) :
    ∃ token last, token.kind = .ident ∧ token.text = p.name ∧ last.kind = .endOfFile ∧
      tokensAt file size source = [token, last] := by
  obtain ⟨hfirst, hword⟩ := name_isWord p
  rw [← List.append_nil p.name] at hsource
  obtain ⟨token, hkind, htext, htokens⟩ := tokensAt_word file _ _ hsize hsource hfirst hword rfl
  rw [tokensAt_ended file (Nat.zero_le size) afterTrivia_nil] at htokens
  exact ⟨token, _, hkind, htext, rfl, htokens⟩

/-- The grammar reads the text of a type, behind blanks and at the end of a file, to its tree. -/
theorem operand_nested (ws : List Wrapper) (p : Primitive) (hsize : source.length ≤ size)
    (hsource : afterTrivia source = (TyTerm.nested ws p).text) :
    ∃ last, last.kind = .endOfFile ∧
      Operand True (tokensAt file size source) (nestedTree p ws) false [last] := by
  induction ws generalizing source with
  | nil =>
    obtain ⟨token, last, hkind, htext, hlast, htokens⟩ := tokensAt_primitive file p hsize hsource
    refine ⟨last, hlast, ?_⟩
    rw [htokens, nestedTree, ← htext]
    exact .applied (.name hkind) .nil fun _ _ => rfl
  | cons w ws ih =>
    have hinner := afterTrivia_nested ws p
    cases w with
    | slice =>
      have hrest := length_of_afterTrivia hsize hsource
      obtain ⟨opening, hopening, htokens⟩ :=
        tokensAt_sole file hsize (k := .lbracket) (by decide) hsource
      obtain ⟨closing, hclosing, htokens'⟩ :=
        tokensAt_sole file hrest (k := .rbracket) (by decide) (afterTrivia_other rfl rfl)
      obtain ⟨last, hlast, helem⟩ := ih (Nat.le_of_succ_le hrest) hinner
      rw [htokens, htokens']
      exact ⟨last, hlast, .slice hopening hclosing helem⟩
    | pointer =>
      have hrest := length_of_afterTrivia hsize hsource
      obtain ⟨mark, hmark, htokens⟩ := tokensAt_sole file hsize (k := .caret) (by decide) hsource
      obtain ⟨last, hlast, helem⟩ := ih hrest hinner
      rw [htokens]
      exact ⟨last, hlast, .pointer hmark helem⟩
    | multipointer =>
      have hrest := length_of_afterTrivia hsize hsource
      obtain ⟨opening, hopening, htokens⟩ :=
        tokensAt_sole file hsize (k := .lbracket) (by decide) hsource
      obtain ⟨mark, hmark, htokens'⟩ :=
        tokensAt_sole file hrest (k := .caret) (by decide) (afterTrivia_other rfl rfl)
      obtain ⟨closing, hclosing, htokens''⟩ :=
        tokensAt_sole file (Nat.le_of_succ_le hrest) (k := .rbracket) (by decide)
          (afterTrivia_other rfl rfl)
      obtain ⟨last, hlast, helem⟩ := ih (Nat.le_of_succ_le (Nat.le_of_succ_le hrest)) hinner
      rw [htokens, htokens', htokens'']
      exact ⟨last, hlast, .multipointer hopening hmark hclosing helem⟩

def typeConstant (ws : List Wrapper) (p : Primitive) : Bytes :=
  "X :: " ++ (TyTerm.nested ws p).text

private theorem file_typeConstant (ws : List Wrapper) (p : Primitive) (f : SourceFile)
    (hcontent : f.content = typeConstant ws p) :
    Grammar.File True f.tokens
      [Tree.expr { kind := .constant, name := "X", value := nestedTree p ws }] := by
  let text := (TyTerm.nested ws p).text
  have hbytes : f.content = 0x58 :: 0x20 :: 0x3A :: 0x3A :: 0x20 :: text := hcontent
  have hsize : (0x58 :: 0x20 :: 0x3A :: 0x3A :: 0x20 :: text).length ≤ f.content.length :=
    (congrArg List.length hbytes).ge
  have hafterName : (0x20 :: 0x3A :: 0x3A :: 0x20 :: text).length ≤ f.content.length :=
    Nat.le_of_succ_le hsize
  have hafterFirst : (0x3A :: 0x20 :: text).length ≤ f.content.length :=
    Nat.le_of_succ_le (Nat.le_of_succ_le hafterName)
  have hfront : afterTrivia (0x20 :: 0x3A :: 0x3A :: 0x20 :: text) =
      0x3A :: 0x3A :: 0x20 :: text := (afterTrivia_blank rfl _).trans (afterTrivia_other rfl rfl)
  have hvalue : afterTrivia (0x20 :: text) = text :=
    (afterTrivia_blank rfl _).trans (afterTrivia_nested ws p)
  obtain ⟨name, hname, htext, htokens⟩ := tokensAt_word f.id "X"
    (0x20 :: 0x3A :: 0x3A :: 0x20 :: text) hsize (afterTrivia_other rfl rfl) rfl rfl rfl
  obtain ⟨first, hfirst, htokens'⟩ := tokensAt_sole f.id hafterName (k := .colon) (by decide) hfront
  obtain ⟨second, hsecond, htokens''⟩ :=
    tokensAt_sole f.id hafterFirst (k := .colon) (by decide) (afterTrivia_other rfl rfl)
  obtain ⟨last, hlast, hoperand⟩ :=
    operand_nested f.id ws p (Nat.le_of_succ_le hafterFirst) hvalue
  have hall : f.tokens =
      name :: first :: second :: tokensAt f.id f.content.length (0x20 :: text) := by
    rw [← htokens'', ← htokens', ← htokens, f.tokens_eq]
    exact congrArg (tokensAt f.id f.content.length) hbytes
  rw [hall, ← htext]
  exact ⟨last, hlast, .cons .done (.constant hname hfirst .none hsecond (.operand hoperand)) .nil⟩

private theorem parse_typeConstant (ws : List Wrapper) (p : Primitive) (f : SourceFile)
    (hcontent : f.content = typeConstant ws p) :
    f.parse.failed = false ∧ ∃ h type value body list,
      f.parse.file.items = [.node h type value body list] ∧ h.kind = .constant ∧ h.name = "X" ∧
        type.isAbsent = true ∧ value.bare = nestedTree p ws := by
  obtain ⟨hparsed, hitems⟩ := f.parse_complete (file_typeConstant ws p f hcontent)
  obtain ⟨e, he, hbare⟩ := List.map_eq_singleton_iff.mp hitems
  refine ⟨hparsed, ?_⟩
  cases e with
  | absent => cases hbare
  | node h type value body list =>
    obtain ⟨hhead, htype, hvalue, -, -⟩ := Expr.node.inj hbare
    refine ⟨h, type, value, body, list, he, congrArg ExprHead.kind hhead,
      congrArg ExprHead.name hhead, ?_, hvalue⟩
    rw [← type.bare_isAbsent, htype]
    rfl

end Reading

/-! ### Asking for a type -/

namespace TypeStore

def internNested (s : TypeStore) (p : Primitive) : List Wrapper → Except Fault TyId × TypeStore
  | [] => (.ok (s.primitive p), s)
  | w :: ws =>
    match s.internNested p ws with
    | (.ok elem, s) => s.wrap w elem
    | failed => failed

theorem unfoldWithin_kept {s s' : TypeStore} (hgrow : s.toArena.Extends s'.toArena) {m n : Nat}
    (hmn : m ≤ n) {id : TyId} {term : TyTerm} (h : s.unfoldWithin m id = .ok term) :
    s'.unfoldWithin n id = .ok term := by
  induction m generalizing n id term with
  | zero => cases h
  | succ m ih =>
    obtain ⟨n, rfl⟩ : ∃ k, n = k + 1 := ⟨n - 1, by omega⟩
    have hle : m ≤ n := by omega
    have hget {t : Ty} (ht : s.get? id = some t) : s'.get id = .ok t :=
      (Arena.get_eq_ok_iff _ _ _).mpr (hgrow.kept ht)
    obtain ⟨p, ht, rfl⟩ | ⟨w, elem, inner, ht, helem, rfl⟩ |
      ⟨params, result, inner, last, ht, hparams, hresult, rfl⟩ := unfoldWithin_cases h
    · simp only [unfoldWithin, hget ht, Outcome.ok_bind]
      rfl
    · simp only [unfoldWithin, hget ht, Outcome.ok_bind, ih hle helem]
      rfl
    · have hparams' : params.mapM (s'.unfoldWithin n) = .ok inner :=
        Outcome.mapM_eq_ok.mpr ((Outcome.mapM_eq_ok.mp hparams).imp fun _ _ hp => ih hle hp)
      simp only [unfoldWithin, hget ht, Outcome.ok_bind, hparams', ih hle hresult]
      rfl

theorem Canonical.internNested {s : TypeStore} (h : s.Canonical) (p : Primitive)
    (ws : List Wrapper) : ∃ id s', s.internNested p ws = (.ok id, s') ∧ s'.Canonical ∧
      s.toArena.Extends s'.toArena ∧ s'.Issued id ∧ s'.unfold id = .ok (TyTerm.nested ws p) := by
  induction ws with
  | nil =>
    have hheld := h.get?_primitive p
    refine ⟨_, s, rfl, h, .refl _, ⟨_, hheld⟩, ?_⟩
    simp only [unfold, unfoldWithin, (Arena.get_eq_ok_iff _ _ _).mpr hheld, Outcome.ok_bind]
    rfl
  | cons w ws ih =>
    obtain ⟨elem, s', hinner, hcanonical, hgrow, hissued, hunfold⟩ := ih
    have hi := intern_interned hcanonical (.wrapped w elem)
    obtain ⟨id, hid⟩ := (hi.accepted_iff hcanonical).mpr (by simpa [Ty.components] using hissued)
    have hheld := hi.holds hid
    have hcanonical' := hi.kept hcanonical
    have hrun : s.internNested p (w :: ws) = (.ok id, (s'.intern (.wrapped w elem)).2) := by
      rw [TypeStore.internNested, hinner]
      exact Prod.ext hid rfl
    have holder : elem.index < id.index :=
      (hcanonical'.components_older hheld elem (by simp [Ty.components])).2
    refine ⟨id, _, hrun, hcanonical', hgrow.trans hi.grows, ⟨_, hheld⟩, ?_⟩
    simp only [unfold, unfoldWithin, (Arena.get_eq_ok_iff _ _ _).mpr hheld, Outcome.ok_bind,
      unfoldWithin_kept hi.grows holder hunfold]
    rfl

end TypeStore

/-! ### Binding the text of a type -/

namespace BindM

variable {α β : Type}

/-- From the universe `u` the action succeeds, and its result meets `post` where it ends. -/
def Gives (u : Universe FrameTable) (action : BindM FrameTable α)
    (post : α → Universe FrameTable → Prop) : Prop :=
  ∀ s, s.world = u → ∃ a s', exec action s = (.ok a, s') ∧ post a s'.world

namespace Gives

variable {u : Universe FrameTable} {action : BindM FrameTable α} {next : α → BindM FrameTable β}
  {mid : α → Universe FrameTable → Prop} {post : β → Universe FrameTable → Prop}

protected theorem pure {a : α} (h : mid a u) : Gives u (pure a) mid := by
  rintro s rfl
  exact ⟨a, s, rfl, h⟩

protected theorem bind (h : Gives u action mid) (hnext : ∀ a v, mid a v → Gives v (next a) post) :
    Gives u (action >>= next) post := by
  intro s hs
  obtain ⟨a, s', hrun, hmid⟩ := h s hs
  rw [exec_bind, hrun]
  exact hnext a s'.world hmid s' rfl

private theorem imp {mid' : α → Universe FrameTable → Prop} (h : Gives u action mid)
    (himp : ∀ a v, mid a v → mid' a v) : Gives u action mid' := by
  intro s hs
  obtain ⟨a, s', hrun, hmid⟩ := h s hs
  exact ⟨a, s', hrun, himp a _ hmid⟩

theorem traced {name : Bytes} (h : Gives u action mid) :
    Gives u (BindM.traced name action) mid := by
  intro s hs
  obtain ⟨start, hstart, hresult, hworld⟩ := exec_traced name action s
  obtain ⟨a, s', hrun, hmid⟩ := h start (hstart.trans hs)
  rw [hrun] at hresult hworld
  exact ⟨a, (exec (BindM.traced name action) s).2, Prod.ext hresult rfl, hworld ▸ hmid⟩

theorem ask_bind {answer : Universe FrameTable → Except Fault α} {a : α} (ha : answer u = .ok a)
    (hnext : Gives u (next a) post) : Gives u (BindM.ask answer >>= next) post := by
  intro s hs
  rw [exec_ask_bind, hs, ha]
  exact hnext s hs

theorem primitive_bind {p : Primitive} {next : TyId → BindM FrameTable β}
    (hnext : Gives u (next (u.types.primitive p)) post) :
    Gives u (BindM.primitive p >>= next) post := by
  rintro s rfl
  exact hnext s rfl

private theorem visible?_bind {scope : ScopeId} {name : Bytes}
    {next : Option NodeId → BindM FrameTable β}
    (hnext : Gives u (next (u.scopes.lookup scope name)) post) :
    Gives u (BindM.visible? scope name >>= next) post := by
  rintro s rfl
  exact hnext s rfl

theorem openScope_bind {scope : ScopeId} {next : ScopeId → BindM FrameTable β}
    (hnext : Gives { u with scopes := (u.scopes.child scope).2 } (next (u.scopes.child scope).1)
      post) : Gives u (BindM.openScope scope >>= next) post := by
  rintro s rfl
  exact hnext { s with world.scopes := (s.world.scopes.child scope).2 } rfl

private theorem wrap_bind {w : Wrapper} {elem id : TyId} {types : TypeStore}
    {next : TyId → BindM FrameTable β} (hwrap : u.types.wrap w elem = (.ok id, types))
    (hnext : Gives { u with types := types } (next id) post) :
    Gives u (BindM.wrap w elem >>= next) post := by
  rintro s rfl
  rw [exec_bind, BindM.wrap, exec_intern, hwrap]
  exact hnext _ rfl

theorem make_bind {span : Span} {shape : Shape} {next : NodeId → BindM FrameTable β}
    (hnext : Gives { u with graph := (u.graph.insert ⟨span, shape⟩).2 }
      (next (u.graph.insert ⟨span, shape⟩).1) post) :
    Gives u (BindM.make span shape >>= next) post := by
  rintro s rfl
  exact hnext { s with world.graph := (s.world.graph.insert ⟨span, shape⟩).2 } rfl

protected theorem make {span : Span} {shape : Shape} {post : NodeId → Universe FrameTable → Prop}
    (h : post (u.graph.insert ⟨span, shape⟩).1
      { u with graph := (u.graph.insert ⟨span, shape⟩).2 }) :
    Gives u (BindM.make span shape) post := by
  rw [← bind_pure (BindM.make span shape)]
  exact .make_bind (.pure h)

theorem declare_bind {scope : ScopeId} {name : Bytes} {id : NodeId}
    {next : Unit → BindM FrameTable β}
    (hnext : Gives { u with scopes := u.scopes.insert scope name id } (next ()) post) :
    Gives u (BindM.declare scope name id >>= next) post := by
  rintro s rfl
  exact hnext { s with world.scopes := s.world.scopes.insert scope name id } rfl

end Gives

end BindM

open BindM (Gives)

namespace Universe

structure Means (u : Universe FrameTable) (id : NodeId) (type : TyId) : Prop where
  typeOf : u.graph.typeOf id = .ok (u.types.primitive .type)
  isConstant : u.graph.isConstant id = .ok true
  evaluate : u.graph.evaluate id = .ok (.ok (.type type))

def IsLiteral (u : Universe FrameTable) (id : NodeId) (type : TyId) : Prop :=
  ∃ span, u.graph.get? id = some ⟨span, .typeLiteral type (u.types.primitive .type)⟩

variable {u : Universe FrameTable} {id : NodeId} {type : TyId}

private theorem IsLiteral.means (h : u.IsLiteral id type) : u.Means id type := by
  obtain ⟨span, hid⟩ := h
  have hget := (Arena.get_eq_ok_iff _ _ _).mpr hid
  have hreferent : u.graph.referent id =
      .ok (id, ⟨span, .typeLiteral type (u.types.primitive .type)⟩) :=
    Outcome.bind_eq_ok.mpr ⟨_, hget, rfl⟩
  have hconstant : u.graph.isConstant id = .ok true := Outcome.bind_eq_ok.mpr ⟨_, hget, rfl⟩
  refine ⟨Outcome.bind_eq_ok.mpr ⟨_, hreferent, rfl⟩, hconstant, ?_⟩
  exact Graph.evaluate_eq_valueAt hconstant hreferent

private theorem IsLiteral.means_name {span : Span} {target : NodeId} (h : u.IsLiteral target type)
    (hid : u.graph.get? id = some ⟨span, .name target⟩) : u.Means id type := by
  obtain ⟨span', htarget⟩ := h
  have hget := (Arena.get_eq_ok_iff _ _ _).mpr hid
  have hget' := (Arena.get_eq_ok_iff _ _ _).mpr htarget
  obtain ⟨steps, hsteps⟩ : ∃ steps, id.index = steps + 1 := by
    obtain ⟨-, hpos, -⟩ := (Arena.get?_eq_some_iff _ _ _).mp hid
    exact Nat.exists_eq_add_one.mpr hpos
  have hreferent : u.graph.referent id =
      .ok (target, ⟨span', .typeLiteral type (u.types.primitive .type)⟩) := by
    rw [Graph.referent, hsteps]
    exact Outcome.bind_eq_ok.mpr ⟨_, hget, Outcome.bind_eq_ok.mpr ⟨_, hget', rfl⟩⟩
  have hconstant : u.graph.isConstant id = .ok true := by
    rw [Graph.isConstant, hsteps]
    exact Outcome.bind_eq_ok.mpr ⟨_, hget, Outcome.bind_eq_ok.mpr ⟨_, hget', rfl⟩⟩
  refine ⟨Outcome.bind_eq_ok.mpr ⟨_, hreferent, rfl⟩, hconstant, ?_⟩
  exact Graph.evaluate_eq_valueAt hconstant hreferent

def Sees (u : Universe FrameTable) (scope : ScopeId) (p : Primitive) : Prop :=
  ∃ id, u.scopes.lookup scope p.name = some id ∧ u.IsLiteral id (u.types.primitive p)

structure Offers (u : Universe FrameTable) (scope : ScopeId) : Prop where
  ordered : u.scopes.Ordered
  held : scope < u.scopes.frames.size
  sees : ∀ p, u.Sees scope p

private theorem Offers.child {scope : ScopeId} (h : u.Offers scope) :
    Offers { u with scopes := (u.scopes.child scope).2 } (u.scopes.child scope).1 := by
  refine ⟨h.ordered.child h.held, by simp [FrameTable.child], fun p => ?_⟩
  obtain ⟨id, hid, hliteral⟩ := h.sees p
  exact ⟨id, (FrameTable.lookup_child h.ordered h.held p.name).trans hid, hliteral⟩

/-- The top of a universe sees the types that are bound there, next to those that it saw. -/
theorem bindBuiltins_offers {u : Universe FrameTable} {ps : List Primitive}
    (hordered : u.scopes.Ordered) (hheld : root < u.scopes.frames.size)
    (hsees : ∀ p, p ∈ ps ∨ u.Sees root p) (offset : Nat) :
    (u.bindBuiltins offset ps).Offers root := by
  induction ps generalizing u offset with
  | nil => exact ⟨hordered, hheld, fun p => (hsees p).resolve_left List.not_mem_nil⟩
  | cons q rest ih =>
    have hsize (id : NodeId) :
        (u.scopes.insert root q.name id).frames.size = u.scopes.frames.size := Array.size_modify
    refine ih (hordered.insert _ _ _) (hheld.trans_eq (hsize _).symm) (fun p => ?_) _
    let node : Node := ⟨⟨u.builtinFile, offset, offset + q.name.length⟩,
      .typeLiteral (u.types.primitive q) (u.types.primitive .type)⟩
    have hlookup := FrameTable.lookup_insert hordered hheld q.name p.name (u.graph.insert node).1
    by_cases hpq : p = q
    · subst hpq
      rw [if_pos rfl] at hlookup
      exact .inr ⟨_, hlookup, _, Arena.get?_insert_self u.graph node⟩
    · rw [if_neg fun hname => hpq (Primitive.name_injective hname)] at hlookup
      refine (hsees p).imp (fun hmem => (List.mem_cons.mp hmem).resolve_left hpq) ?_
      rintro ⟨id, hid, span, hliteral⟩
      exact ⟨id, hlookup.trans hid, span, (Arena.insert_extends u.graph node).kept hliteral⟩

theorem offers_ofFiles (files : FileSet) : (ofFiles files : Universe FrameTable).Offers root := by
  have hheld : root < (ScopeStore.root : FrameTable).frames.size := Nat.zero_lt_one
  refine bindBuiltins_offers FrameTable.ordered_root hheld (fun p => .inl ?_) 0
  cases p <;> decide

end Universe

namespace Binder

variable {u : Universe FrameTable} {id : NodeId} {t : TyId} {scope : ScopeId} {hint : Hint}

private theorem requireConstant_gives (h : u.Means id t) (problem : BindProblem) (span : Span) :
    Gives u (requireConstant id problem span) fun _ v => v = u :=
  .ask_bind h.isConstant (.pure rfl)

private theorem evaluate_gives (h : u.Means id t) (span : Span) :
    Gives u (evaluate id span) fun value v => value = .type t ∧ v = u :=
  .ask_bind h.evaluate (.pure ⟨rfl, rfl⟩)

private theorem typeValue_gives (h : u.Means id t) (htypes : u.types.Canonical) (span : Span)
    (use : TypeUse) : Gives u (typeValue id span use) fun found v => found = t ∧ v = u := by
  have hdescribed : u.types.get (u.types.primitive .type) = .ok (.primitive .type) :=
    (Arena.get_eq_ok_iff _ _ _).mpr (htypes.get?_primitive .type)
  have hrequired : Gives u (requireTypeOfTypes (u.types.primitive .type) span use)
      fun _ v => v = u := .ask_bind hdescribed (.pure rfl)
  refine .bind (requireConstant_gives h _ _) ?_
  rintro _ _ rfl
  refine .ask_bind h.typeOf (.bind hrequired ?_)
  rintro _ _ rfl
  refine .bind (evaluate_gives h span) ?_
  rintro _ _ ⟨rfl, rfl⟩
  exact .pure ⟨rfl, rfl⟩

def HintsType (u : Universe FrameTable) (hint : Hint) : Prop :=
  ∀ t ∈ hint, t = u.types.primitive .type

private theorem hintedPrimitive_gives (htypes : u.types.Canonical) (hhint : HintsType u hint) :
    Gives u (hintedPrimitive .type hint)
      fun found v => found = u.types.primitive .type ∧ v = u := by
  cases hint with
  | none =>
    rintro s rfl
    exact ⟨_, s, rfl, rfl, rfl⟩
  | some id =>
    obtain rfl := hhint id rfl
    have hdescribed := (Arena.get_eq_ok_iff _ _ _).mpr (htypes.get?_primitive .type)
    exact .ask_bind hdescribed (.pure ⟨rfl, rfl⟩)

end Binder

open Binder (HintsType)

/-- What binding the text of a type leads to, from the universe `u`. -/
structure Universe.Reads (u : Universe FrameTable) (ws : List Wrapper) (p : Primitive)
    (id : NodeId) (v : Universe FrameTable) : Prop where
  means : ∃ t, u.types.internNested p ws = (.ok t, v.types) ∧ v.Means id t
  ordered : v.scopes.Ordered
  size : u.scopes.frames.size ≤ v.scopes.frames.size

def Universe.NamesType (u : Universe FrameTable) (scope : ScopeId) (name : Bytes) (t : TyId) :
    Prop :=
  ∃ id span, u.scopes.lookup scope name = some id ∧
    u.graph.get? id = some ⟨span, .constant name (u.types.primitive .type) (.type t)⟩

def Part.ReadsType (part : Part FrameTable) (ws : List Wrapper) (p : Primitive) : Prop :=
  ∀ u scope hint, u.Offers scope → u.types.Canonical → HintsType u hint →
    Gives u (part.bind scope hint) (u.Reads ws p)

namespace Binder

variable {u : Universe FrameTable} {scope : ScopeId} {hint : Hint} {p : Primitive}

private theorem name_gives {h : ExprHead} (hname : h.name = p.name) (hoffers : u.Offers scope) :
    Gives u (name h scope) (u.Reads [] p) := by
  obtain ⟨target, hsees, hliteral⟩ := hoffers.sees p
  obtain ⟨span, htarget⟩ := hliteral
  refine .visible?_bind ?_
  rw [hname, hsees]
  refine .ask_bind ((Arena.get_eq_ok_iff _ _ _).mpr htarget) ?_
  refine .make ⟨⟨_, rfl, ?_⟩, hoffers.ordered, le_rfl⟩
  let node : Node := ⟨h.span, .name target⟩
  have hkept := (Arena.insert_extends u.graph node).kept htarget
  exact Universe.IsLiteral.means_name ⟨span, hkept⟩ (Arena.get?_insert_self u.graph node)

theorem typeDenoted_gives {type : Part FrameTable} {ws : List Wrapper} {use : TypeUse}
    (htype : type.ReadsType ws p) (hoffers : u.Offers scope) (htypes : u.types.Canonical) :
    Gives u (typeDenoted type scope use) fun t v => u.types.internNested p ws = (.ok t, v.types) ∧
      v.scopes.Ordered ∧ u.scopes.frames.size ≤ v.scopes.frames.size := by
  have hhint : HintsType u (some (u.types.primitive .type)) := by
    rintro _ ⟨⟩
    rfl
  refine .openScope_bind (.primitive_bind (.bind (htype _ _ _ hoffers.child htypes hhint) ?_))
  rintro id v ⟨⟨t, hrun, hmeans⟩, hordered, hsize⟩
  obtain ⟨t', types, hrun', hcanonical, -⟩ := htypes.internNested p ws
  obtain ⟨-, rfl⟩ := Prod.mk.inj (hrun'.symm.trans hrun)
  refine (typeValue_gives hmeans hcanonical _ _).imp ?_
  rintro _ _ ⟨rfl, rfl⟩
  simp only [FrameTable.child, Array.size_push] at hsize
  exact ⟨hrun, hordered, Nat.le_of_succ_le hsize⟩

private theorem wrapperType_gives {h : ExprHead} {type : Part FrameTable} {w : Wrapper}
    {ws : List Wrapper} (htype : type.ReadsType ws p) (hoffers : u.Offers scope)
    (htypes : u.types.Canonical) (hhint : HintsType u hint) :
    Gives u (wrapperType w h type scope hint) (u.Reads (w :: ws) p) := by
  refine .bind (typeDenoted_gives htype hoffers htypes) ?_
  rintro elem v ⟨hrun, hordered, hsize⟩
  obtain ⟨denoted, types, hall, hcanonical, hgrow, -⟩ := htypes.internNested p (w :: ws)
  have hwrap : v.types.wrap w elem = (.ok denoted, types) := by
    rwa [TypeStore.internNested, hrun] at hall
  have hkept : types.primitive .type = u.types.primitive .type :=
    TypeStore.primitive_kept hgrow .type
  refine .wrap_bind hwrap (.bind (hintedPrimitive_gives hcanonical fun t ht => ?_) ?_)
  · rw [hkept]
    exact hhint t ht
  · rintro _ _ ⟨rfl, rfl⟩
    refine .make ⟨⟨denoted, hall, ?_⟩, hordered, hsize⟩
    exact Universe.IsLiteral.means ⟨h.span, Arena.get?_insert_self _ _⟩

private theorem constant_gives {h : ExprHead} {type value : Part FrameTable} {ws : List Wrapper}
    (htype : type.expr.isAbsent = true) (hvalue : value.ReadsType ws p)
    (hoffers : u.Offers scope) (htypes : u.types.Canonical) :
    Gives u (constant h type value scope none) fun _ v =>
      ∃ t, u.types.internNested p ws = (.ok t, v.types) ∧ v.NamesType scope h.name t := by
  have hascription : ascription h type scope = pure none := if_pos htype
  rw [constant, hascription, pure_bind]
  refine .openScope_bind (.bind (hvalue _ _ none hoffers.child htypes (by rintro _ ⟨⟩)) ?_)
  rintro id v ⟨⟨t, hrun, hmeans⟩, hordered, hsize⟩
  simp only [FrameTable.child, Array.size_push] at hsize
  have hheld : scope < v.scopes.frames.size := hoffers.held.trans_le (Nat.le_of_succ_le hsize)
  refine .bind (requireConstant_gives hmeans _ _) ?_
  rintro _ _ rfl
  refine .ask_bind hmeans.typeOf ?_
  simp only [requireAscribed, pure_bind]
  refine .bind (evaluate_gives hmeans _) ?_
  rintro _ _ ⟨rfl, rfl⟩
  refine .make_bind (.declare_bind (.pure ⟨t, hrun, _, h.span, ?_, Arena.get?_insert_self _ _⟩))
  exact (FrameTable.lookup_insert hordered hheld h.name h.name _).trans (if_pos rfl)

end Binder

/-- Binding the tree of a type reads the type. -/
theorem Expr.bind_nested (p : Primitive) (ws : List Wrapper) {e : Expr}
    (he : e.bare = Grammar.nestedTree p ws) : Part.ReadsType ⟨e, e.bind⟩ ws p := by
  -- The operand of a wrapper has a scope of its own, so each level starts from another universe.
  induction ws generalizing e with
  | nil =>
    cases e with
    | absent => cases he
    | node h type value body list =>
      obtain ⟨hhead, -⟩ := Expr.node.inj he
      have hkind : h.kind = .name := congrArg ExprHead.kind hhead
      have hname : h.name = p.name := congrArg ExprHead.name hhead
      intro u scope hint hoffers _ _
      refine .traced ?_
      simp only [Binder.expr, hkind]
      exact Binder.name_gives hname hoffers
  | cons w ws ih =>
    cases e with
    | absent => cases he
    | node h type value body list =>
      obtain ⟨hhead, htype, -⟩ := Expr.node.inj he
      have hkind : h.kind = w.exprKind := congrArg ExprHead.kind hhead
      intro u scope hint hoffers htypes hhint
      refine .traced ?_
      cases w with
      | slice | pointer | multipointer =>
        simp only [Binder.expr, hkind, Wrapper.exprKind]
        exact Binder.wrapperType_gives (ih htype) hoffers htypes hhint

namespace SyntaxFile

open Universe (root)

variable {file : SyntaxFile} {h : ExprHead} {type value body : Expr} {list : List Expr}

theorem bind_single (hitems : file.items = [.node h type value body list])
    (hkind : h.kind = .constant) :
    (file.bind : BindM FrameTable NodeId) =
      BindM.traced "bind:Constant"
          (Binder.constant h ⟨type, type.bind⟩ ⟨value, value.bind⟩ root none) >>=
        fun id => BindM.primitive .void >>=
          fun void => BindM.make ⟨file.span.file, 0, 0⟩ (.block [id] void) := by
  have hitem : requireItem (.node h type value body list) = (pure () : BindM FrameTable Unit) :=
    if_pos hkind
  rw [SyntaxFile.bind, hitems, bindItems, hitem]
  simp only [pure_bind, bind_assoc, bindItems, Expr.bind, Binder.expr, hkind]
  rfl

private theorem bind_typeConstant {u : Universe FrameTable} {ws : List Wrapper} {p : Primitive}
    (hitems : file.items = [.node h type value body list]) (hkind : h.kind = .constant)
    (htype : type.isAbsent = true) (hvalue : value.bare = Grammar.nestedTree p ws)
    (hoffers : u.Offers root) (htypes : u.types.Canonical) :
    Gives u file.bind fun _ v =>
      ∃ t, u.types.internNested p ws = (.ok t, v.types) ∧ v.NamesType root h.name t := by
  have hbound : Gives u (Binder.constant h ⟨type, type.bind⟩ ⟨value, value.bind⟩ root none)
      fun _ v => ∃ t, u.types.internNested p ws = (.ok t, v.types) ∧ v.NamesType root h.name t :=
    Binder.constant_gives htype (value.bind_nested p ws hvalue) hoffers htypes
  rw [bind_single hitems hkind]
  refine .bind (.traced hbound) ?_
  rintro id v ⟨t, hrun, made, span, hlookup, hmade⟩
  refine .primitive_bind (.make ⟨t, hrun, made, span, hlookup, ?_⟩)
  exact (Arena.insert_extends v.graph _).kept hmade

end SyntaxFile

open TypeStore in
/-- The text of a type is read back. A type that is built from a primitive one by slices and
pointers of both kinds has one text in all stores. The constant with this text as its value
compiles without a report, and what it denotes is the handle that a fresh store gives for the
type. -/
theorem compile_typeText (ws : List Wrapper) (p : Primitive) :
    ∃ text,
      (∀ tag requests, ∃ id types,
        ((seeded tag).internAll requests).2.internNested p ws = (.ok id, types) ∧
          types.format id = .ok text) ∧
      ∀ (options : CompileOptions) (files : FileSet) (f : SourceFile) (log : TraceLog),
        let c := compile { options with skipEntry := true } files
          { f with content := "X :: " ++ text } log
        c.succeeded = true ∧ c.bag.items = [] ∧ ∃ u id node span, c.world = some u ∧
          (Universe.ofFiles files : Universe FrameTable).types.internNested p ws =
            (.ok id, u.types) ∧
          u.types.format id = .ok text ∧ u.lookup "X" = some node ∧
          u.graph.get? node =
            some ⟨span, .constant "X" (u.types.primitive .type) (.type id)⟩ ∧
          u.graph.evaluate node = .ok (.ok (.type id)) := by
  have hformat {s types : TypeStore} {id : TyId} (hs : s.Canonical)
      (hrun : s.internNested p ws = (.ok id, types)) :
      types.format id = .ok (TyTerm.nested ws p).text := by
    obtain ⟨id', types', hrun', -, -, hissued, hunfold⟩ := hs.internNested p ws
    obtain ⟨hid, rfl⟩ := Prod.mk.inj (hrun'.symm.trans hrun)
    obtain rfl := Except.ok.inj hid
    exact format_of_unfold hissued hunfold
  refine ⟨(TyTerm.nested ws p).text, fun tag requests => ?_, fun options files f log => ?_⟩
  · have hs := internAll_canonical (seeded_canonical tag) requests
    obtain ⟨id, types, hrun, -⟩ := hs.internNested p ws
    exact ⟨id, types, hrun, hformat hs hrun⟩
  · intro c
    obtain ⟨hparsed, h, type, value, body, list, hitems, hkind, hname, htype, hvalue⟩ :=
      parse_typeConstant ws p { f with content := typeConstant ws p } rfl
    have hskip : { options with skipEntry := true }.skipEntry = true := rfl
    obtain ⟨log', parent, hroot, hworld, hbag⟩ := compile_bound hskip files hparsed log
    have hfresh : (Universe.ofFiles files : Universe FrameTable).types.Canonical :=
      seeded_canonical 1
    have hgives := SyntaxFile.bind_typeConstant hitems hkind htype hvalue
      (Universe.offers_ofFiles files) hfresh
    obtain ⟨root, s, hrun, id, hintern, node, span, hlookup, hnode⟩ :=
      hgives ⟨.ofFiles files, log', parent⟩ rfl
    rw [hrun] at hroot hworld hbag
    rw [hname] at hlookup hnode
    have hbag' : c.bag = .ofLimit options.maxDiagnostics := hbag
    have hsucceeded : c.succeeded = true := by
      rw [Compilation.succeeded, show c.root = some root from hroot, hbag']
      rfl
    exact ⟨hsucceeded, congrArg Bag.items hbag', s.world, id, node, span, hworld, hintern,
      hformat hfresh hintern, hlookup, hnode, Graph.evaluate_constant hnode⟩

end Keywordless
