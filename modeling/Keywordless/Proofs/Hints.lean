import Keywordless.Proofs.BindActions
import Keywordless.Proofs.FromText
import Keywordless.Proofs.SplitFiles
import Mathlib

/-!
# Hints

Binding under a hint takes short cuts: a hinted procedure type, type of types or `void` is used as
it is instead of being asked for. In a canonical store the short cut leads to the handle that asking
leads to, and asking changes nothing there, so that binding is the same with and without the hint.
Only integer literals take their type from it.
-/

namespace Keywordless

open BindM (Built)

namespace Expr

mutual

/-- Where the hint of an expression goes: through parentheses, to the last entry of a block and to
the value of a constant without a type. -/
def hintSite : Expr → Expr
  | absent => absent
  | node h type value body list =>
    match h.kind with
    | .paren => hintSite value
    | .block => lastSite (node h type value body list) list
    | .constant => if type.isAbsent then hintSite value else node h type value body list
    | _ => node h type value body list

def lastSite (here : Expr) : List Expr → Expr
  | [] => here
  | e :: rest => lastSite (hintSite e) rest

end

end Expr

namespace BindM

variable {τ : Type} {α β : Type} {hint : TyId}

private theorem Built.types_kept [ScopeStore τ] {action : BindM τ α} (h : Built action)
    (s : BindState τ) (hs : s.world.types.Canonical) :
    (exec action s).2.world.types.Canonical ∧
      s.world.types.toArena.Extends (exec action s).2.world.types.toArena := by
  have hinterned (t : Ty) (s : BindState τ) (hs : s.world.types.Canonical) :
      (exec (intern fun types => types.intern t) s).2.world.types.Canonical ∧
        s.world.types.toArena.Extends
          (exec (intern fun types => types.intern t) s).2.world.types.toArena := by
    rw [exec_intern]
    have hi := TypeStore.intern_interned hs t
    exact ⟨hi.kept hs, hi.grows⟩
  induction h generalizing s with
  | pure | throw | fail | primitive | make | openScope | visible? | declare =>
    exact ⟨hs, .refl _⟩
  | ask answer =>
    have hrun : exec (BindM.ask answer) s = exec (BindM.ask answer >>= Pure.pure) s := by
      rw [bind_pure]
    rw [hrun, exec_ask_bind]
    cases answer s.world <;> exact ⟨hs, .refl _⟩
  | wrap w elem => exact hinterned (.wrapped w elem) s hs
  | procedureType params result => exact hinterned (.procedure params result) s hs
  | @bind _ _ action next _ _ ih ih' =>
    obtain ⟨hcanonical, hgrows⟩ := ih s hs
    rw [exec_bind]
    rcases hrun : exec action s with ⟨_ | a, t⟩
    · rw [hrun] at hcanonical hgrows
      exact ⟨hcanonical, hgrows⟩
    · rw [hrun] at hcanonical hgrows
      obtain ⟨hcanonical', hgrows'⟩ := ih' a t hcanonical
      exact ⟨hcanonical', hgrows.trans hgrows'⟩
  | traced name _ ih =>
    obtain ⟨t, ht, -, hworld⟩ := exec_traced name _ s
    rw [hworld, ← ht]
    exact ih t (ht ▸ hs)

/-- Where the hint is a type of the store, the two actions do the same. -/
def Agree (hint : TyId) (a b : BindM τ α) : Prop :=
  ∀ s, s.world.types.Canonical → s.world.types.Issued hint → exec a s = exec b s

namespace Agree

variable {a b : BindM τ α} {f g : α → BindM τ β}

private theorem refl (a : BindM τ α) : Agree hint a a := fun _ _ _ => rfl

private theorem traced {name : Bytes} (h : Agree hint a b) :
    Agree hint (BindM.traced name a) (BindM.traced name b) := by
  intro s hs hhint
  let opened := s.log.opened .node name s.parent
  have hinside := h { s with log := opened.2, parent := opened.1.id } hs hhint
  have hplain := h s hs hhint
  have hrun (action : BindM τ α) : exec (BindM.traced name action) s =
      if s.log.level.emits .node then
        let r := exec action { s with log := opened.2, parent := opened.1.id }
        (r.1, { r.2 with log := r.2.log.closed opened.1 [], parent := s.parent })
      else exec action s := rfl
  rw [hrun, hrun, hinside, hplain]

private theorem describe_bind {next : Ty → BindM τ β} {b : BindM τ β}
    (h : ∀ s t, s.world.types.Canonical → s.world.types.get? hint = some t →
      exec (next t) s = exec b s) :
    Agree hint (BindM.describe hint >>= next) b := by
  intro s hs hhint
  obtain ⟨t, ht⟩ := hhint
  have hget : s.world.types.get hint = .ok t := (Arena.get_eq_ok_iff _ _ _).mpr ht
  rw [BindM.describe, exec_ask_bind, hget]
  exact h s t hs ht

variable [ScopeStore τ]

private theorem bind (h : Agree hint a b) (hbuilt : Built a) (hnext : ∀ x, Agree hint (f x) (g x)) :
    Agree hint (a >>= f) (b >>= g) := by
  intro s hs hhint
  obtain ⟨hcanonical, hgrows⟩ := hbuilt.types_kept s hs
  rw [exec_bind, exec_bind, ← h s hs hhint]
  rcases hrun : exec a s with ⟨_ | x, t⟩
  · rfl
  · rw [hrun] at hcanonical hgrows
    exact hnext x t hcanonical (hgrows.issued hhint)

private theorem after (hbuilt : Built a) (hnext : ∀ x, Agree hint (f x) (g x)) :
    Agree hint (a >>= f) (a >>= g) := (refl a).bind hbuilt hnext

end Agree

end BindM

open BindM (Agree)

/-- Binding the part does not look at its hint. -/
def Part.Unhinted {τ : Type} (p : Part τ) : Prop :=
  ∀ scope hint, p.bind scope hint = p.bind scope none

namespace Binder

variable {τ : Type} {hint : TyId} {h : ExprHead} {scope : ScopeId} {type value body : Part τ}
  {list : List (Part τ)}

private theorem signatureType_agrees (params : List TyId) (returns : TyId) :
    Agree hint (signatureType params returns (some hint) : BindM τ TyId)
      (signatureType params returns none) := by
  intro s hs hhint
  obtain ⟨t, ht⟩ := hhint
  have hget : s.world.types.get hint = .ok t := (Arena.get_eq_ok_iff _ _ _).mpr ht
  have hanswer : s.world.types.isProcedure hint params returns =
      .ok (t == .procedure params returns) := by
    rw [TypeStore.isProcedure, hget]
    rfl
  unfold signatureType
  dsimp only
  rw [BindM.exec_ask_bind, hanswer]
  dsimp only
  split
  · next hsame =>
    -- The store holds the hinted type, so that asking for it gives the hint.
    rw [eq_of_beq hsame] at ht
    have hheld : s.world.types.procedure params returns = (.ok hint, s.world.types) :=
      TypeStore.intern_held hs ht
    rw [BindM.procedureType, BindM.exec_intern, hheld]
    rfl
  · rfl

private theorem parameters_unhinted (hlist : ∀ p ∈ list, p.Unhinted) (suggested : List TyId) :
    parameters list scope suggested = parameters list scope [] := by
  induction list generalizing suggested with
  | nil => rfl
  | cons p rest ih =>
    obtain ⟨hp, hrest⟩ := List.forall_mem_cons.mp hlist
    simp only [parameters, hp scope suggested.head?, hp scope ([] : List TyId).head?,
      ih hrest suggested.tail, List.tail_nil]

private theorem hintedPrimitive_agrees (p : Primitive) :
    Agree hint (hintedPrimitive p (some hint) : BindM τ TyId) (hintedPrimitive p none) := by
  apply BindM.Agree.describe_bind
  intro s t hs ht
  split
  · next hkind =>
    have hprimitive : t = .primitive p := by
      cases t with
      | primitive q => simpa [Ty.kind] using hkind
      | wrapped w elem => cases w <;> simp [Ty.kind] at hkind
      | procedure params result => simp [Ty.kind] at hkind
    rw [hprimitive] at ht
    rw [(hs.primitive_iff hint p).mp ht]
    rfl
  · rfl

private theorem suggestedParams_bind {β : Type} {next next' : List TyId → BindM τ β}
    (h : ∀ suggested, Agree hint (next suggested) (next' [])) :
    Agree hint (suggestedParams (some hint) >>= next) (suggestedParams none >>= next') := by
  unfold suggestedParams
  simp only [bind_assoc, pure_bind]
  apply BindM.Agree.describe_bind
  intro s t hs ht
  exact h t.params s hs ⟨t, ht⟩

private theorem blockType_agrees (ids : List NodeId) :
    Agree hint (blockType ids (some hint) : BindM τ TyId) (blockType ids none) := by
  unfold blockType
  split
  · exact .refl _
  · exact hintedPrimitive_agrees .void

variable [ScopeStore τ]

private theorem declaration_unhinted (hgiven : ¬ (type.expr.isAbsent ∧ value.expr.isAbsent))
    (other : Hint) :
    declaration h type value scope other = declaration h type value scope none := by
  unfold declaration ascription
  by_cases htype : type.expr.isAbsent
  · have hvalue : ¬ value.expr.isAbsent := fun hvalue => hgiven ⟨htype, hvalue⟩
    simp [htype, hvalue, initialValue, declaredType]
  · simp [htype, declaredType]

private theorem constant_unhinted (htype : type.expr.isAbsent = false) (other : Hint) :
    constant h type value scope other = constant h type value scope none := by
  simp [constant, ascription, htype]

private theorem procedure_agrees (htype : type.Built) (hbody : body.Built)
    (hlist : ∀ p ∈ list, p.Built) (hunhinted : ∀ p ∈ list, p.Unhinted) :
    Agree hint (procedure h type body list scope (some hint))
      (procedure h type body list scope none) := by
  apply BindM.Agree.after (.openScope scope)
  intro inner
  apply suggestedParams_bind
  intro suggested
  rw [parameters_unhinted hunhinted suggested]
  apply BindM.Agree.after (parameters_built hlist [])
  intro params
  apply BindM.Agree.after (typeDenoted_built htype .returnType)
  intro returns
  apply BindM.Agree.after (hbody inner (some returns))
  intro bodyId
  apply BindM.Agree.after (typeOf_built bodyId)
  intro actual
  apply BindM.Agree.after (requireReturned_built actual returns)
  intro _
  exact (signatureType_agrees _ returns).bind (signatureType_built _ returns) fun own => .refl _

private theorem block_agrees (hlist : ∀ p ∈ list, p.Built)
    (hentries : ∀ inner, Agree hint (blockEntries list inner (some hint))
      (blockEntries list inner none)) :
    Agree hint (block h list scope (some hint)) (block h list scope none) := by
  apply BindM.Agree.after (.openScope scope)
  intro inner
  apply (hentries inner).bind (blockEntries_built hlist)
  intro ids
  exact (blockType_agrees ids).bind (blockType_built ids) fun type => .refl _

private theorem constant_agrees (htype : type.expr.isAbsent) (hvalue : value.Built)
    (hagrees : ∀ inner, Agree hint (value.bind inner (some hint)) (value.bind inner none)) :
    Agree hint (constant h type value scope (some hint))
      (constant h type value scope none) := by
  unfold constant ascription
  rw [if_pos htype]
  simp only [pure_bind]
  apply BindM.Agree.after (.openScope scope)
  intro inner
  exact (hagrees inner).bind (hvalue inner (some hint)) fun id => .refl _

private theorem wrapperType_agrees (w : Wrapper) (htype : type.Built) :
    Agree hint (wrapperType w h type scope (some hint)) (wrapperType w h type scope none) := by
  apply BindM.Agree.after (typeDenoted_built htype .elementType)
  intro elem
  apply BindM.Agree.after (.wrap w elem)
  intro denoted
  exact (hintedPrimitive_agrees .type).bind (hintedPrimitive_built .type) fun own => .refl _

end Binder

namespace Expr

variable {τ : Type} [ScopeStore τ] {hint : TyId}

private theorem declaration_part_unhinted {e : Expr} (h : e.Complete)
    (hkind : e.kind = .declaration) : Part.Unhinted (⟨e, e.bind⟩ : Part τ) := by
  cases e with
  | absent => exact h.elim
  | node head type value body list =>
    have hhead : head.kind = .declaration := hkind
    rw [Complete, hhead] at h
    intro scope other
    simp only [bind, Binder.expr, hhead]
    rw [Binder.declaration_unhinted h.2.2]

private theorem bindParts_unhinted {list : List Expr} (hlist : ∀ e ∈ list, e.Complete)
    (hkinds : ∀ e ∈ list, e.kind = .declaration) :
    ∀ p ∈ (bindParts list : List (Part τ)), p.Unhinted := by
  induction list with
  | nil => simp [bindParts]
  | cons e rest ih =>
    rw [List.forall_mem_cons] at hlist hkinds
    rw [bindParts, List.forall_mem_cons]
    exact ⟨declaration_part_unhinted hlist.1 hkinds.1, ih hlist.2 hkinds.2⟩

mutual

private theorem bind_agrees :
    (e : Expr) → e.Complete → e.hintSite.kind ≠ .intLit → (scope : ScopeId) →
    Agree hint (e.bind scope (some hint) : BindM τ NodeId) (e.bind scope none)
  | absent, hcomplete, _, _ => hcomplete.elim
  | node h type value body list, hcomplete, hsite, scope => by
    apply BindM.Agree.traced
    rw [Complete] at hcomplete
    rw [hintSite] at hsite
    unfold Binder.expr
    generalize hkind : h.kind = kind at hcomplete hsite ⊢
    cases kind with
    | paren =>
      apply BindM.Agree.after (.openScope scope)
      exact bind_agrees value hcomplete hsite
    | block =>
      apply Binder.block_agrees (bindParts_built list)
      exact entries_agree list hcomplete _ hsite
    | constant =>
      obtain ⟨-, hvalue⟩ := hcomplete
      by_cases htype : type.isAbsent
      · rw [if_pos htype] at hsite
        exact Binder.constant_agrees htype (bind_built value) (bind_agrees value hvalue hsite)
      · rw [Bool.not_eq_true] at htype
        dsimp only
        rw [Binder.constant_unhinted htype]
        exact .refl _
    | declaration =>
      dsimp only
      rw [Binder.declaration_unhinted hcomplete.2.2]
      exact .refl _
    | procedure =>
      obtain ⟨-, -, hlist, hkinds⟩ := hcomplete
      exact Binder.procedure_agrees (bind_built type) (bind_built body) (bindParts_built list)
        (bindParts_unhinted (allComplete_iff.mp hlist) hkinds)
    | sliceType | multipointerType | pointerType =>
      exact Binder.wrapperType_agrees _ (bind_built type)
    | intLit => exact absurd hkind hsite
    | name | member | call | structType | arrayType | procedureType | invalid | unlisted =>
      exact .refl _

private theorem entries_agree : (list : List Expr) → AllComplete list → (here : Expr) →
    (lastSite here list).kind ≠ .intLit → (scope : ScopeId) →
    Agree hint (Binder.blockEntries (bindParts list : List (Part τ)) scope (some hint))
      (Binder.blockEntries (bindParts list) scope none)
  | [], _, _, _, _ => .refl _
  | [e], hcomplete, _, hsite, scope =>
    (bind_agrees e hcomplete.1 hsite scope).bind (bind_built e scope _) fun id => .refl _
  | e :: e' :: rest, hcomplete, _, hsite, scope => by
    apply BindM.Agree.after (bind_built e scope none)
    intro id
    apply BindM.Agree.bind
    · exact entries_agree (e' :: rest) hcomplete.2 e.hintSite hsite scope
    · exact Binder.blockEntries_built (bindParts_built (e' :: rest))
    · exact fun ids => .refl _

end

/-! ### Parsed expressions -/

def ownParts : Expr → List Expr
  | absent => []
  | node h type value body list =>
    match h.kind with
    | .name | .intLit | .invalid | .unlisted => []
    | .block | .structType => list
    | .constant | .declaration => [type, value]
    | .paren | .member => [value]
    | .call => value :: list
    | .procedure => list ++ [type, body]
    | .procedureType => list ++ [type]
    | .arrayType => [value, type]
    | .sliceType | .multipointerType | .pointerType => [type]

inductive PartOf (d : Expr) : Expr → Prop
  | refl : PartOf d d
  | part {p e : Expr} (own : p ∈ e.ownParts) (inner : PartOf d p) : PartOf d e

private theorem Complete.ownParts {e p : Expr} (h : e.Complete) (hp : p ∈ e.ownParts) :
    p.isAbsent ∨ p.Complete := by
  cases e with
  | absent => cases hp
  | node head type value body list =>
    rw [Complete] at h
    rw [Expr.ownParts] at hp
    generalize head.kind = kind at h hp
    cases kind <;> simp only [allComplete_iff, List.mem_append, List.mem_cons, List.not_mem_nil,
      or_false] at h hp <;> grind

private theorem PartOf.complete {d e : Expr} (h : PartOf d e) (he : e.isAbsent ∨ e.Complete)
    (hpresent : d.isAbsent = false) : d.Complete := by
  induction h with
  | refl => simpa [hpresent] using he
  | @part p e hp _ ih =>
    apply ih
    rcases he with he | he
    · cases e with
      | absent => cases hp
      | node head type value body list => cases he
    · exact he.ownParts hp

end Expr

/-- An item is derived also if the parse goes wrong after it. -/
theorem Syntax.items_derived (s : TokenStream) :
    ∀ e ∈ (Syntax.items s).items, ∃ w w', Grammar.Expression True w e.bare w' := by
  rw [Syntax.items]
  dsimp only
  split
  · simp
  · split
    · simp
    · next first hfirst =>
      have hlt := first.shorter
      have hle := (s.skip TokenKind.isSeparator).2
      have hvalue : ∃ w w', Grammar.Expression True w first.value.bare w' :=
        ⟨_, _, Syntax.expr_sound True _ hfirst⟩
      split
      · simpa using hvalue
      · next u hu _ =>
        rw [List.forall_mem_cons]
        exact ⟨hvalue, Syntax.items_derived u⟩
termination_by s.size
decreasing_by omega

private theorem Syntax.items_whole (s : TokenStream) :
    ∀ e ∈ (Syntax.items s).items, e.Complete := by
  intro e he
  obtain ⟨_, _, hderived⟩ := Syntax.items_derived s e he
  exact e.complete_bare.mp hderived.complete

namespace Universe

variable {τ : Type} [ScopeStore τ]

/-- The universes that steps of binding lead to. Files may become known in between, and what was
done before a failure stays. -/
inductive ByBinding : Universe τ → Prop
  | fresh (files : FileSet) : ByBinding (ofFiles files)
  | known {u : Universe τ} (h : ByBinding u) (files : FileSet) : ByBinding { u with files := files }
  | acted {s : BindState τ} (h : ByBinding s.world) {α : Type} {action : BindM τ α}
      (hbuilt : Built action) : ByBinding (action.exec s).2.world

private theorem bindBuiltins_types (u : Universe τ) (offset : Nat) (list : List Primitive) :
    (u.bindBuiltins offset list).types = u.types := by
  induction list generalizing u offset with
  | nil => rfl
  | cons p rest ih => exact ih _ _

private theorem ByBinding.canonical {u : Universe τ} (h : u.ByBinding) : u.types.Canonical := by
  induction h with
  | fresh files =>
    rw [ofFiles, bindBuiltins_types]
    exact TypeStore.seeded_canonical 1
  | known _ _ ih => exact ih
  | acted _ hbuilt ih => exact (hbuilt.types_kept _ ih).1

end Universe

/-- Binding an expression of a file under a hint does the same as without it, unless the hint gets
to an integer literal. -/
theorem SourceFile.bind_under_hint {τ : Type} [ScopeStore τ] (f : SourceFile) {item e : Expr}
    (hitem : item ∈ f.parse.file.items) (hpart : e.PartOf item) (hpresent : e.isAbsent = false)
    (hsite : e.hintSite.kind ≠ .intLit) {s : BindState τ} (hs : s.world.ByBinding) {hint : TyId}
    (hhint : s.world.types.Issued hint) (scope : ScopeId) :
    (e.bind scope (some hint)).exec s = (e.bind scope none).exec s := by
  have hcomplete : e.Complete := hpart.complete (.inr (Syntax.items_whole _ _ hitem)) hpresent
  exact Expr.bind_agrees e hcomplete hsite scope s hs.canonical hhint

/-- A universe that holds a file with the procedure, and the procedure once more under its own
type. -/
theorem SourceFile.bind_under_hint_procedure :
    let item := SyntaxFile.InParts.file.items.getD 1 .absent
    let e := item.ownParts.getD 1 .absent
    let s := SyntaxFile.InParts.used
    (item ∈ SyntaxFile.InParts.source.parse.file.items ∧ e.PartOf item ∧
      e.hintSite.kind = .procedure ∧ s.world.ByBinding ∧
      s.world.types.get? ⟨1, 6⟩ = some (.procedure [⟨1, 3⟩] ⟨1, 3⟩)) ∧
    (e.bind Universe.root (some ⟨1, 6⟩)).exec s = (e.bind Universe.root none).exec s := by
  intro item e s
  have hitems : 1 < SyntaxFile.InParts.file.items.length := by decide +kernel
  have hitem : item ∈ SyntaxFile.InParts.source.parse.file.items := by
    simp only [item, List.getD_eq_getElem _ _ hitems]
    exact List.getElem_mem hitems
  have hparts : 1 < item.ownParts.length := by decide +kernel
  have hpart : e.PartOf item := by
    apply Expr.PartOf.part _ .refl
    simp only [e, List.getD_eq_getElem _ _ hparts]
    exact List.getElem_mem hparts
  have hkind : e.hintSite.kind = .procedure := by decide +kernel
  have hs : s.world.ByBinding := .acted (.fresh {}) (SyntaxFile.bind_built _)
  have hhint : s.world.types.get? ⟨1, 6⟩ = some (.procedure [⟨1, 3⟩] ⟨1, 3⟩) := by decide +kernel
  refine ⟨⟨hitem, hpart, hkind, hs, hhint⟩, ?_⟩
  exact bind_under_hint _ hitem hpart (by decide +kernel) (by simp [hkind]) hs ⟨_, hhint⟩ _

/-- A literal is different: it takes an integer type from its hint. -/
example :
    let one : Expr := .node ⟨.intLit, {}, 1, {}, "1"⟩ .absent .absent .absent []
    let made (hint : Hint) :=
      ((one.bind Universe.root hint).exec SyntaxFile.InParts.fresh).2.world.graph.get? ⟨1, 6⟩
    (made none).map (·.shape) = some (.constant [] ⟨1, 3⟩ (.int 1)) ∧
      (made (some ⟨1, 4⟩)).map (·.shape) = some (.constant [] ⟨1, 4⟩ (.int 1)) := by
  decide +kernel

end Keywordless
