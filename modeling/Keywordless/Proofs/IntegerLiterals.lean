import Keywordless.Proofs.TypeNotation
import Keywordless.Proofs.WholeTrees

/-!
# Integer literals

A literal writes its number in decimal, with underscores that mean nothing. A constant that is
annotated with an integer type has exactly this number as its value, however many digits it takes,
if the type holds the number. Otherwise the literal is reported and nothing else.
-/

namespace Keywordless

def literalNumber (literal : Bytes) : Nat :=
  Nat.ofDigits 10 ((literal.filter (· != 0x5F)).reverse.map fun b => b.toNat - 0x30)

private theorem Bytes.decimalValue_eq (digits : Bytes) :
    decimalValue digits = Nat.ofDigits 10 (digits.reverse.map fun b => b.toNat - 0x30) := by
  induction digits using List.reverseRecOn with
  | nil => rfl
  | append_singleton digits b ih =>
    have hstep : decimalValue (digits ++ [b]) = decimalValue digits * 10 + (b.toNat - 0x30) := by
      simp [decimalValue]
    rw [hstep, ih, List.reverse_append, List.reverse_singleton, List.singleton_append,
      List.map_cons, Nat.ofDigits_cons]
    ring

variable {literal : Bytes}

private theorem Binder.literalValue?_eq (h : DigitRun literal literal []) :
    literalValue? literal = some (literalNumber literal) := by
  obtain ⟨b, hb, hdigit⟩ := h.first
  have hunderscore : b ≠ 0x5F := by
    rintro rfl
    cases hdigit
  have hmem : b ∈ literal.filter (· != 0x5F) := by
    simp [List.mem_of_mem_head? hb, hunderscore]
  have hsome : (literal.filter (· != 0x5F)).isEmpty = false := by
    simpa using List.ne_nil_of_mem hmem
  have hall : (literal.filter (· != 0x5F)).all Bytes.isDigit = true := by
    rw [List.all_eq_true]
    intro c hc
    obtain ⟨hc, hother⟩ := List.mem_filter.mp hc
    have hbody := h.body c hc
    simp only [bne_iff_ne, ne_eq] at hother
    simpa [hother] using hbody
  simp [literalValue?, hsome, hall, literalNumber, Bytes.decimalValue_eq]

/-! ### Reading a literal -/

private theorem afterTrivia_digits (h : DigitRun literal literal []) :
    afterTrivia literal = literal := by
  obtain ⟨b, hb, hdigit⟩ := h.first
  cases literal with
  | nil => cases hb
  | cons c rest =>
    obtain rfl : c = b := by simpa using hb
    apply afterTrivia_other
    · by_contra hblank
      simp only [isBlank, Bool.not_eq_false, Bool.or_eq_true, beq_iff_eq] at hblank
      rcases hblank with (rfl | rfl) | rfl <;> cases hdigit
    · have hslash : c ≠ 0x2F := by
        rintro rfl
        cases hdigit
      simp [startsComment_cons, hslash]

private theorem tokensAt_literal (file : FileId) {size : Nat} {source : Bytes}
    (hsize : source.length ≤ size) (h : DigitRun literal literal [])
    (hsource : afterTrivia source = literal) :
    ∃ token last, token.kind = .intLit ∧ token.text = literal ∧
      token.span = ⟨file, size - literal.length, size⟩ ∧ last.kind = .endOfFile ∧
      tokensAt file size source = [token, last] := by
  obtain ⟨b, hb, hdigit⟩ := h.first
  cases literal with
  | nil => cases hb
  | cons c rest =>
    obtain rfl : c = b := by simpa using hb
    have hlexeme : Lexeme.ofBytes c rest = ⟨.intLit, (c :: rest).length, c :: rest, none⟩ := by
      rw [Lexeme.ofBytes_digit hdigit, Lexeme.number_eq h]
      rfl
    have hrest : afterLexeme c rest = [] := by
      rw [afterLexeme, hlexeme]
      exact List.drop_length
    obtain ⟨leading, htokens⟩ := tokensAt_read file hsize hsource
    rw [hrest, hlexeme, tokensAt_ended file (Nat.zero_le size) afterTrivia_nil] at htokens
    exact ⟨_, _, rfl, rfl, rfl, rfl, htokens⟩

def literalConstant (p : Primitive) (literal : Bytes) : Bytes :=
  "x : " ++ p.name ++ " : " ++ literal

section Reading

open Grammar

variable {p : Primitive} {f : SourceFile}

private theorem tokens_literalConstant (h : DigitRun literal literal [])
    (hcontent : f.content = literalConstant p literal) :
    Grammar.File True f.tokens [Tree.expr
      { kind := .constant, name := "x", type := nestedTree p [],
        value := Tree.expr { kind := .intLit, name := literal } }] ∧
    ∀ t ∈ f.tokens, t.kind = .intLit →
      t.span = ⟨f.id, f.content.length - literal.length, f.content.length⟩ := by
  let behind : Bytes := 0x20 :: 0x3A :: 0x20 :: literal
  let typed : Bytes := 0x20 :: 0x3A :: 0x20 :: (p.name ++ behind)
  have hbytes : f.content = 0x78 :: typed := by
    rw [hcontent, literalConstant, List.append_assoc]
    simp only [typed, behind]
    rfl
  have hlength : (0x78 :: typed).length = f.content.length := congrArg List.length hbytes.symm
  have hsize : (0x20 :: (p.name ++ behind)).length ≤ f.content.length := by
    simp only [← hlength, typed, List.length_cons]
    omega
  have hsize' : behind.length ≤ f.content.length := by
    simp only [List.length_cons, List.length_append] at hsize
    omega
  have hcolon (rest : Bytes) : afterTrivia (0x20 :: 0x3A :: rest) = 0x3A :: rest :=
    (afterTrivia_blank rfl _).trans (afterTrivia_other rfl rfl)
  have htype : afterTrivia (0x20 :: (p.name ++ behind)) = p.name ++ behind := by
    rw [afterTrivia_blank rfl]
    cases p <;> exact afterTrivia_other rfl rfl
  have hvalue : afterTrivia (0x20 :: literal) = literal :=
    (afterTrivia_blank rfl _).trans (afterTrivia_digits h)
  obtain ⟨hfirst, hword⟩ := name_isWord p
  obtain ⟨name, hname, hnameText, htokens⟩ :=
    tokensAt_word f.id "x" typed hlength.le (afterTrivia_other rfl rfl) rfl rfl rfl
  obtain ⟨colon, hcolonKind, htokens₂⟩ :=
    tokensAt_sole f.id (Nat.le_of_succ_le hlength.le) (k := .colon) (by decide) (hcolon _)
  obtain ⟨type, htypeKind, htypeText, htokens₃⟩ :=
    tokensAt_word f.id p.name behind hsize htype hfirst hword rfl
  obtain ⟨second, hsecond, htokens₄⟩ :=
    tokensAt_sole f.id hsize' (k := .colon) (by decide) (hcolon _)
  obtain ⟨token, last, hkind, htext, hspan, hlast, htokens₅⟩ :=
    tokensAt_literal f.id (Nat.le_of_succ_le (Nat.le_of_succ_le hsize')) h hvalue
  have hall : f.tokens = [name, colon, type, second, token, last] := by
    rw [f.tokens_eq, ← htokens₅, ← htokens₄, ← htokens₃, ← htokens₂, ← htokens]
    exact congrArg (tokensAt f.id f.content.length) hbytes
  rw [hall]
  constructor
  · rw [← hnameText, nestedTree, ← htypeText]
    have htyped : Ascription True (type :: second :: [token, last])
        (Tree.expr { kind := .name, name := type.text }) (second :: [token, last]) :=
      .some (.applied (.name htypeKind) .nil fun _ _ => rfl)
    have hoperand : Operand True [token, last]
        (Tree.expr { kind := .intLit, name := literal }) false [last] := by
      rw [← htext]
      exact .applied (.intLit hkind) .nil fun _ _ => rfl
    exact ⟨last, hlast, .cons .done
      (.constant hname hcolonKind htyped hsecond (.operand hoperand)) .nil⟩
  · intro t ht hliteral
    simp only [List.mem_cons, List.not_mem_nil, or_false] at ht
    rcases ht with rfl | rfl | rfl | rfl | rfl | rfl
    case inr.inr.inr.inr.inl => exact hspan
    all_goals simp_all

/-- The text is parsed to a constant with the tree of the type and the literal, which has the span
of its token. -/
theorem parse_literalConstant (h : DigitRun literal literal [])
    (hcontent : f.content = literalConstant p literal) :
    f.parse.failed = false ∧ ∃ head type value body list,
      f.parse.file.items = [.node head type value body list] ∧
        head.kind = .constant ∧ head.name = "x" ∧ type.bare = nestedTree p [] ∧
        value.kind = .intLit ∧ value.head.name = literal ∧
        value.span = ⟨f.id, f.content.length - literal.length, f.content.length⟩ := by
  obtain ⟨hfile, hspan⟩ := tokens_literalConstant h hcontent
  obtain ⟨hparsed, hitems⟩ := f.parse_complete hfile
  obtain ⟨-, hdocumented⟩ := f.parse_counted hparsed
  obtain ⟨e, he, hbare⟩ := List.map_eq_singleton_iff.mp hitems
  have hitem := hdocumented e (by simp [he])
  refine ⟨hparsed, ?_⟩
  cases e with
  | absent => cases hbare
  | node head type value body list =>
    obtain ⟨hhead, htype, hvalue, -, -⟩ := Expr.node.inj hbare
    cases value with
    | absent => cases hvalue
    | node head' type' value' body' list' =>
      obtain ⟨hhead', -⟩ := Expr.node.inj hvalue
      have hkind : head'.kind = .intLit := congrArg ExprHead.kind hhead'
      have hinner : (Expr.node head' type' value' body' list').Documented f.tokens :=
        hitem.field (by simp [Expr.fields]) rfl
      obtain ⟨-, t, ht, htkind, htspan, -⟩ := hinner.literalOf hkind
      refine ⟨head, type, _, body, list, he, congrArg ExprHead.kind hhead,
        congrArg ExprHead.name hhead, htype, hkind, congrArg ExprHead.name hhead', ?_⟩
      exact htspan.trans (hspan t ht htkind)

end Reading

/-! ### Binding a literal -/

namespace BindM

variable {α β : Type}

/-- From the universe `u` the action fails with an error that meets `post`. -/
def Refuses (u : Universe FrameTable) (action : BindM FrameTable α) (post : BindError → Prop) :
    Prop :=
  ∀ s, s.world = u → ∃ e s', exec action s = (.error (.error e), s') ∧ post e

namespace Refuses

variable {u : Universe FrameTable} {action : BindM FrameTable α} {next : α → BindM FrameTable β}
  {mid : α → Universe FrameTable → Prop} {post : BindError → Prop}

private theorem fail {problem : BindProblem} {span : Span} {notes : List Note}
    (h : ∀ place, post { problem, span, place, notes }) :
    Refuses u (BindM.fail problem span notes : BindM FrameTable α) post := by
  rintro s rfl
  exact ⟨_, s, rfl, h _⟩

private theorem bind_left (h : Refuses u action post) : Refuses u (action >>= next) post := by
  intro s hs
  obtain ⟨e, s', hrun, he⟩ := h s hs
  exact ⟨e, s', by rw [exec_bind, hrun], he⟩

private theorem bind_right (h : Gives u action mid)
    (hnext : ∀ a v, mid a v → Refuses v (next a) post) : Refuses u (action >>= next) post := by
  intro s hs
  obtain ⟨a, s', hrun, hmid⟩ := h s hs
  rw [exec_bind, hrun]
  exact hnext a s'.world hmid s' rfl

private theorem traced {name : Bytes} (h : Refuses u action post) :
    Refuses u (BindM.traced name action) post := by
  intro s hs
  obtain ⟨start, hstart, hresult, -⟩ := exec_traced name action s
  obtain ⟨e, s', hrun, he⟩ := h start (hstart.trans hs)
  rw [hrun] at hresult
  exact ⟨e, (exec (BindM.traced name action) s).2, Prod.ext hresult rfl, he⟩

end Refuses

private theorem Gives.ask {u : Universe FrameTable} {answer : Universe FrameTable → Except Fault α}
    {a : α}
    (ha : answer u = .ok a) : Gives u (BindM.ask answer) fun found v => found = a ∧ v = u := by
  rw [← bind_pure (BindM.ask answer)]
  exact .ask_bind ha (.pure ⟨rfl, rfl⟩)

private theorem Gives.openScope {u : Universe FrameTable} (scope : ScopeId) :
    Gives u (BindM.openScope scope) fun inner v =>
      inner = (u.scopes.child scope).1 ∧ v = { u with scopes := (u.scopes.child scope).2 } := by
  rw [← bind_pure (BindM.openScope scope)]
  exact .openScope_bind (.pure ⟨rfl, rfl⟩)

end BindM

open BindM (Gives Refuses)

private theorem Graph.typeOf_constant {g : Graph} {id : NodeId} {span : Span} {name : Bytes}
    {type : TyId} {value : Value} (hid : g.get? id = some ⟨span, .constant name type value⟩) :
    g.typeOf id = .ok type ∧ g.isConstant id = .ok true := by
  have hget := (Arena.get_eq_ok_iff g id _).mpr hid
  have hreferent : g.referent id = .ok (id, ⟨span, .constant name type value⟩) :=
    Outcome.bind_eq_ok.mpr ⟨_, hget, rfl⟩
  exact ⟨Outcome.bind_eq_ok.mpr ⟨_, hreferent, rfl⟩, Outcome.bind_eq_ok.mpr ⟨_, hget, rfl⟩⟩

section Binding

variable {u : Universe FrameTable} {scope : ScopeId} {p : Primitive} {h : ExprHead} {n : Nat}
  {t : TyId} {type value : Expr}

def overflowAt (span : Span) (literal : Bytes) (p : Primitive) : Diagnostic :=
  .error .integerOverflow span ("integer literal " ++ literal ++ " does not fit in " ++ p.name)

namespace Binder

private theorem literalType_gives (htypes : u.types.Canonical) (ht : t = u.types.primitive p)
    (hp : p.isInteger = true) :
    Gives u (literalType (some t)) fun found v => found = (t, p) ∧ v = u := by
  subst ht
  refine .ask_bind ((Arena.get_eq_ok_iff _ _ _).mpr (htypes.get?_primitive p)) ?_
  simp only [hp, if_true]
  exact .pure ⟨rfl, rfl⟩

private theorem intLit_gives (htypes : u.types.Canonical) (ht : t = u.types.primitive p)
    (hp : p.isInteger = true) (hvalue : literalValue? h.name = some n) (hfits : n ≤ p.largest) :
    Gives u (intLit h (some t)) fun id v =>
      v.types = u.types ∧ v.scopes = u.scopes ∧ ∃ span,
        v.graph.get? id = some ⟨span, .constant [] t (.int n)⟩ := by
  refine .bind (literalType_gives htypes ht hp) ?_
  rintro _ _ ⟨rfl, rfl⟩
  simp only [hvalue, if_pos hfits]
  exact .make ⟨rfl, rfl, h.span, Arena.get?_insert_self _ _⟩

private theorem intLit_refuses (htypes : u.types.Canonical) (ht : t = u.types.primitive p)
    (hp : p.isInteger = true) (hvalue : literalValue? h.name = some n) (hlarge : p.largest < n) :
    Refuses u (intLit h (some t)) fun e => e.diagnostic = overflowAt h.span h.name p := by
  obtain ⟨t', types, hrun, -, -, hissued, hunfold⟩ := htypes.internNested p []
  obtain ⟨ht', rfl⟩ := Prod.mk.inj hrun
  obtain rfl := Except.ok.inj ht'
  have htext := TypeStore.format_of_unfold hissued hunfold
  refine .bind_right (literalType_gives htypes ht hp) ?_
  rintro _ _ ⟨rfl, rfl⟩
  simp only [hvalue, if_neg (Nat.not_le.mpr hlarge)]
  rw [ht]
  refine .bind_right (.ask htext) ?_
  rintro _ _ ⟨rfl, rfl⟩
  exact .fail fun _ => rfl

/-- The annotation of a constant is the type that it names. -/
theorem ascription_gives (htype : type.bare = Grammar.nestedTree p []) (hoffers : u.Offers scope)
    (htypes : u.types.Canonical) :
    Gives u (ascription h ⟨type, type.bind⟩ scope) fun hint v =>
      hint = some (u.types.primitive p) ∧ v.types = u.types ∧ v.scopes.Ordered ∧
        u.scopes.frames.size ≤ v.scopes.frames.size := by
  have hthere : type.isAbsent = false := by
    rw [← type.bare_isAbsent, htype]
    rfl
  rw [ascription, if_neg (by simp [hthere])]
  refine .bind (typeDenoted_gives (type.bind_nested p [] htype) hoffers htypes) ?_
  rintro t v ⟨hrun, hordered, hsize⟩
  obtain ⟨ht, htypes'⟩ := Prod.mk.inj hrun
  obtain rfl := Except.ok.inj ht
  exact .pure ⟨rfl, htypes'.symm, hordered, hsize⟩

end Binder

namespace Expr

private theorem bind_literal (hkind : value.kind = .intLit) (scope : ScopeId) (hint : Hint) :
    (value.bind scope hint : BindM FrameTable NodeId) =
      BindM.traced "bind:IntLit" (Binder.intLit value.head hint) := by
  cases value with
  | absent => cases hkind
  | node head type value body list =>
    have hkind : head.kind = .intLit := hkind
    simp only [bind, Binder.expr, hkind]
    rfl

end Expr

structure Binder.Annotates (p : Primitive) (n : Nat) (type value : Expr) : Prop where
  type : type.bare = Grammar.nestedTree p []
  integer : p.isInteger = true
  kind : value.kind = .intLit
  value : literalValue? value.head.name = some n

namespace Binder

private theorem annotated_gives (hconstant : Annotates p n type value) (hfits : n ≤ p.largest)
    (hoffers : u.Offers scope) (htypes : u.types.Canonical) :
    Gives u (constant h ⟨type, type.bind⟩ ⟨value, value.bind⟩ scope none) fun _ v =>
      v.types = u.types ∧ ∃ id span, v.scopes.lookup scope h.name = some id ∧
        v.graph.get? id = some ⟨span, .constant h.name (u.types.primitive p) (.int n)⟩ := by
  obtain ⟨htype, hp, hkind, hvalue⟩ := hconstant
  refine .bind (ascription_gives htype hoffers htypes) ?_
  rintro _ v ⟨rfl, hsame, hordered, hsize⟩
  have hheld : scope < v.scopes.frames.size := hoffers.held.trans_le hsize
  refine .openScope_bind ?_
  dsimp only
  rw [Expr.bind_literal hkind]
  refine .bind (.traced (intLit_gives (hsame ▸ htypes) (by rw [hsame]) hp hvalue hfits)) ?_
  rintro id w ⟨htypes', hscopes, span, hid⟩
  obtain ⟨htypeOf, hconstant⟩ := Graph.typeOf_constant hid
  have hrequired : Gives w (requireConstant id (.runtimeValue h.name) value.span)
      fun _ v => v = w := .ask_bind hconstant (.pure rfl)
  have hevaluated : Gives w (evaluate id value.span) fun found v => found = .int n ∧ v = w :=
    .ask_bind (Graph.evaluate_constant hid) (.pure ⟨rfl, rfl⟩)
  refine .bind hrequired ?_
  rintro _ w rfl
  refine .ask_bind htypeOf ?_
  simp only [requireAscribed, if_true, pure_bind]
  refine .bind hevaluated ?_
  rintro _ w ⟨rfl, rfl⟩
  refine .make_bind (.declare_bind (.pure ⟨htypes'.trans hsame, _, h.span, ?_,
    Arena.get?_insert_self _ _⟩))
  have hordered' : w.scopes.Ordered := hscopes ▸ hordered.child hheld
  have hheld' : scope < w.scopes.frames.size := by
    simp only [hscopes, FrameTable.child, Array.size_push]
    exact Nat.lt_succ_of_lt hheld
  exact (FrameTable.lookup_insert hordered' hheld' h.name h.name _).trans (if_pos rfl)

private theorem annotated_refuses (hconstant : Annotates p n type value) (hlarge : p.largest < n)
    (hoffers : u.Offers scope) (htypes : u.types.Canonical) :
    Refuses u (constant h ⟨type, type.bind⟩ ⟨value, value.bind⟩ scope none) fun e =>
      e.diagnostic = overflowAt value.span value.head.name p := by
  obtain ⟨htype, hp, hkind, hvalue⟩ := hconstant
  refine .bind_right (ascription_gives htype hoffers htypes) ?_
  rintro _ v ⟨rfl, hsame, -, -⟩
  refine .bind_right (.openScope scope) ?_
  rintro _ _ ⟨rfl, rfl⟩
  dsimp only
  rw [Expr.bind_literal hkind]
  exact .bind_left (.traced (intLit_refuses (hsame ▸ htypes) (by rw [hsame]) hp hvalue hlarge))

end Binder

namespace SyntaxFile

open Universe (root)

variable {file : SyntaxFile} {body : Expr} {list : List Expr}

private theorem bind_annotated_gives (hitems : file.items = [.node h type value body list])
    (hkind : h.kind = .constant) (hconstant : Binder.Annotates p n type value)
    (hfits : n ≤ p.largest) (hoffers : u.Offers root) (htypes : u.types.Canonical) :
    Gives u file.bind fun _ v =>
      v.types = u.types ∧ ∃ id span, v.lookup h.name = some id ∧
        v.graph.get? id = some ⟨span, .constant h.name (u.types.primitive p) (.int n)⟩ := by
  rw [bind_single hitems hkind]
  refine .bind (.traced (Binder.annotated_gives hconstant hfits hoffers htypes)) ?_
  rintro id v ⟨hsame, made, span, hlookup, hmade⟩
  refine .primitive_bind (.make ⟨hsame, made, span, hlookup, ?_⟩)
  exact (Arena.insert_extends v.graph _).kept hmade

private theorem bind_annotated_refuses (hitems : file.items = [.node h type value body list])
    (hkind : h.kind = .constant) (hconstant : Binder.Annotates p n type value)
    (hlarge : p.largest < n) (hoffers : u.Offers root) (htypes : u.types.Canonical) :
    Refuses u file.bind fun e => e.diagnostic = overflowAt value.span value.head.name p := by
  rw [bind_single hitems hkind]
  exact .bind_left (.traced (Binder.annotated_refuses hconstant hlarge hoffers htypes))

end SyntaxFile

end Binding

/-! ### Compiling a literal -/

section Compiling

variable {options : CompileOptions} (hskip : options.skipEntry = true) (files : FileSet)
  {f : SourceFile} (hparsed : f.parse.failed = false) (log : TraceLog)
include hskip hparsed

private theorem compile_gives {post : NodeId → Universe FrameTable → Prop}
    (h : Gives (.ofFiles files) f.parse.file.bind post) :
    let c := compile options files f log
    c.succeeded = true ∧ c.bag.items = [] ∧ ∃ root u, c.world = some u ∧ post root u := by
  intro c
  obtain ⟨log', parent, hroot, hworld, hbag⟩ := compile_bound hskip files hparsed log
  obtain ⟨root, s, hbound, hpost⟩ := h ⟨.ofFiles files, log', parent⟩ rfl
  rw [hbound] at hroot hworld hbag
  have hempty : c.bag = .ofLimit options.maxDiagnostics := hbag
  have hsucceeded : c.succeeded = true := by
    rw [Compilation.succeeded, show c.root = some root from hroot, hempty]
    rfl
  exact ⟨hsucceeded, congrArg Bag.items hempty, root, s.world, hworld, hpost⟩

private theorem compile_refuses {post : BindError → Prop}
    (h : Refuses (.ofFiles files) f.parse.file.bind post) :
    let c := compile options files f log
    c.succeeded = false ∧ ∃ e, c.bag.items = [e.diagnostic] ∧ post e := by
  intro c
  obtain ⟨log', parent, hroot, -, hbag⟩ := compile_bound hskip files hparsed log
  obtain ⟨e, s, hfailed, hpost⟩ := h ⟨.ofFiles files, log', parent⟩ rfl
  rw [hfailed] at hroot hbag
  have hnone : c.root = none := hroot
  have hitems : c.bag.items = [e.diagnostic] := by
    have hroom := Bag.ofLimit_pos options.maxDiagnostics
    rw [show c.bag = _ from hbag, Bag.ofLimit_addAll]
    exact List.take_of_length_le hroom
  exact ⟨by simp [Compilation.succeeded, hnone], e, hitems, hpost⟩

end Compiling

section Guarded

variable (options : CompileOptions) (files : FileSet) {f : SourceFile} (log : TraceLog)

private theorem compileFile_of_lt (h : f.content.length < offsetLimit) :
    compileFile options files f log = .ok (compile options files f log) := by
  rw [compileFile, Cursor.ofFile, if_pos h]
  rfl

private theorem compileFile_oversized (h : offsetLimit ≤ f.content.length) :
    compileFile options files f log = .error .oversized := by
  rw [compileFile, Cursor.ofFile, if_neg (Nat.not_lt.mpr h)]
  rfl

end Guarded

/-- A constant that is annotated with an integer type and has a literal as its value compiles
exactly if the type holds the number, in a file shorter than `2 ^ 32` bytes. Then the constant has
the type and that number. Otherwise the only report is that the literal does not fit, and it covers
the literal. Larger files are refused. -/
theorem compileFile_literal (options : CompileOptions) (files : FileSet) (f : SourceFile)
    (log : TraceLog) (literal : Bytes) (hfirst : ∃ b ∈ literal.head?, Bytes.isDigit b = true)
    (hbody : ∀ b ∈ literal, (Bytes.isDigit b || b == 0x5F) = true) {p : Primitive} {limit : Nat}
    (hp : (p, limit) ∈ [(.int, 2 ^ 63 - 1), (.uint, 2 ^ 64 - 1), (.u8, 255)]) :
    let content : Bytes := "x : " ++ p.name ++ " : " ++ literal
    let outcome := compileFile { options with skipEntry := true } files { f with content } log
    let n := literalNumber literal
    (offsetLimit ≤ content.length → outcome = .error .oversized) ∧
    (content.length < offsetLimit → ∃ c, outcome = .ok c ∧
      (c.succeeded = true ↔ n ≤ limit) ∧
      (n ≤ limit → c.bag.items = [] ∧ ∃ u id span, c.world = some u ∧ u.lookup "x" = some id ∧
        u.graph.get? id = some ⟨span, .constant "x" (u.types.primitive p) (.int n)⟩ ∧
        u.types.get? (u.types.primitive p) = some (.primitive p) ∧
        u.graph.typeOf id = .ok (u.types.primitive p) ∧
        u.graph.evaluate id = .ok (.ok (.int n))) ∧
      (limit < n → c.bag.items =
        [overflowAt ⟨f.id, content.length - literal.length, content.length⟩ literal p])) := by
  intro content outcome n
  refine ⟨fun hsize => compileFile_oversized _ _ _ hsize, fun hsize => ?_⟩
  refine ⟨_, compileFile_of_lt _ _ _ hsize, ?_⟩
  have hrun : DigitRun literal literal [] :=
    ⟨(List.append_nil literal).symm, hfirst, hbody, by simp⟩
  obtain ⟨hinteger, hlimit⟩ : p.isInteger = true ∧ p.largest = limit := by
    simp only [List.mem_cons, Prod.mk.injEq, List.not_mem_nil, or_false] at hp
    rcases hp with ⟨rfl, rfl⟩ | ⟨rfl, rfl⟩ | ⟨rfl, rfl⟩ <;> exact ⟨rfl, rfl⟩
  obtain ⟨hparsed, head, type, value, body, list, hitems, hhead, hname, htype, hkind, htext,
    hspan⟩ := parse_literalConstant (p := p) (f := { f with content }) hrun rfl
  have hconstant : Binder.Annotates p n type value :=
    ⟨htype, hinteger, hkind, htext ▸ Binder.literalValue?_eq hrun⟩
  have hskip : { options with skipEntry := true }.skipEntry = true := rfl
  have hfresh : (Universe.ofFiles files : Universe FrameTable).types.Canonical :=
    TypeStore.seeded_canonical 1
  have hoffers := Universe.offers_ofFiles files
  by_cases hfits : n ≤ limit
  · have hgives := SyntaxFile.bind_annotated_gives hitems hhead hconstant (hlimit ▸ hfits) hoffers
      hfresh
    obtain ⟨hsucceeded, hempty, root, u, hworld, hsame, id, span, hlookup, hid⟩ :=
      compile_gives hskip files hparsed log hgives
    rw [hname] at hlookup hid
    rw [← hsame] at hid
    have hheld : u.types.get? (u.types.primitive p) = some (.primitive p) := by
      rw [hsame]
      exact hfresh.get?_primitive p
    refine ⟨iff_of_true hsucceeded hfits, fun _ => ⟨hempty, u, id, span, hworld, hlookup, hid,
      hheld, (Graph.typeOf_constant hid).1, Graph.evaluate_constant hid⟩, ?_⟩
    intro hlarge
    exact absurd hfits (Nat.not_le.mpr hlarge)
  · have hrefuses := SyntaxFile.bind_annotated_refuses hitems hhead hconstant
      (hlimit ▸ Nat.not_le.mp hfits) hoffers hfresh
    obtain ⟨hfailed, e, hreport, hdiagnostic⟩ :=
      compile_refuses hskip files hparsed log hrefuses
    refine ⟨iff_of_false (Bool.eq_false_iff.mp hfailed) hfits, fun h => absurd h hfits, ?_⟩
    intro _
    rw [hreport, hdiagnostic, hspan, htext]

private def byteFile : SourceFile := { id := 0, path := "a.nkl", content := [] }

private def byteConstant (literal : Bytes) : Except Fault Compilation :=
  compileFile { skipEntry := true } ⟨#[]⟩
    { byteFile with content := "x : " ++ Primitive.u8.name ++ " : " ++ literal } {}

private theorem byte_mem :
    (Primitive.u8, 255) ∈ [(.int, 2 ^ 63 - 1), (.uint, 2 ^ 64 - 1), (.u8, 255)] := by simp

/-- The largest byte, with a zero in front and an underscore, and the number after it. -/
theorem compileFile_literal_byte :
    literalNumber "02_55" = 255 ∧ literalNumber "256" = 256 ∧
      (∃ c, byteConstant "02_55" = .ok c ∧ c.succeeded = true) ∧
      ∃ c, byteConstant "256" = .ok c ∧ c.bag.items = [overflowAt ⟨0, 9, 12⟩ "256" .u8] := by
  have hnumbers : literalNumber "02_55" = 255 ∧ literalNumber "256" = 256 := by decide
  obtain ⟨c, hc, hiff, -, -⟩ := (compileFile_literal {} ⟨#[]⟩ byteFile {} "02_55" ⟨0x30, rfl, rfl⟩
    (by decide +kernel) byte_mem).2 (by decide)
  obtain ⟨d, hd, -, -, hreport⟩ := (compileFile_literal {} ⟨#[]⟩ byteFile {} "256" ⟨0x32, rfl, rfl⟩
    (by decide +kernel) byte_mem).2 (by decide)
  exact ⟨hnumbers.1, hnumbers.2, ⟨c, hc, hiff.mpr hnumbers.1.le⟩, d, hd, hreport (by omega)⟩

private def manyZeros : Bytes := List.replicate offsetLimit 0x30

private theorem literalNumber_zeros (n : Nat) : literalNumber (List.replicate n 0x30) = 0 := by
  rw [literalNumber, List.filter_replicate_of_pos (by decide), List.reverse_replicate,
    List.map_replicate]
  exact Nat.ofDigits_replicate_zero

/-- A zero is a byte, but one that is written with too many digits is refused with its file. -/
theorem compileFile_literal_zeros :
    (∃ b ∈ manyZeros.head?, Bytes.isDigit b = true) ∧
      (∀ b ∈ manyZeros, (Bytes.isDigit b || b == 0x5F) = true) ∧
      literalNumber manyZeros ≤ 255 ∧ byteConstant manyZeros = .error .oversized := by
  refine ⟨⟨0x30, rfl, rfl⟩, ?_, (literalNumber_zeros offsetLimit).le.trans (Nat.zero_le _), ?_⟩
  · intro b hb
    rw [List.eq_of_mem_replicate hb]
    rfl
  · apply compileFile_oversized
    have hlength : manyZeros.length = offsetLimit := List.length_replicate
    simp only [List.length_append, hlength]
    exact Nat.le_add_left _ _

end Keywordless
