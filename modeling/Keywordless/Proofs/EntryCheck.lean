import Keywordless.Proofs.TypeNotation

/-!
# The entry check

The type that `main` has to have is asked for after binding, and types are compared by their
handles. Since a store has one handle for each type, the comparison is one of whole types, whatever
was asked for before and whatever the builtin names denote by then.
-/

namespace Keywordless

private theorem TyTerm.text_injective : Function.Injective text := by
  intro s t htext
  have happend : s.text ++ [] = t.text ++ [] := congrArg (· ++ []) htext
  exact (text_append_inj happend).1

namespace TypeStore.Canonical

variable {s : TypeStore} {id : TyId}

private theorem unfold_primitive (h : s.Canonical) (p : Primitive) :
    s.unfold (s.primitive p) = .ok (.primitive p) := by
  have hget := (Arena.get_eq_ok_iff _ _ _).mpr (h.get?_primitive p)
  simp only [unfold, unfoldWithin, hget, Outcome.ok_bind]
  rfl

private theorem unfold_wrapped (h : s.Canonical) {w : Wrapper} {elem : TyId} {inner : TyTerm}
    (hid : s.get? id = some (.wrapped w elem)) (helem : s.unfold elem = .ok inner) :
    s.unfold id = .ok (.wrapped w inner) := by
  have hget := (Arena.get_eq_ok_iff _ _ _).mpr hid
  have holder := (h.components_older hid elem (by simp [Ty.components])).2
  have hinner := unfoldWithin_kept (.refl _) holder helem
  simp only [unfold, unfoldWithin, hget, Outcome.ok_bind, hinner]
  rfl

private theorem unfold_procedure (h : s.Canonical) {params : List TyId} {result : TyId}
    {inner : List TyTerm} {last : TyTerm} (hid : s.get? id = some (.procedure params result))
    (hparams : List.Forall₂ (fun p t => s.unfold p = .ok t) params inner)
    (hresult : s.unfold result = .ok last) : s.unfold id = .ok (.procedure inner last) := by
  have hget := (Arena.get_eq_ok_iff _ _ _).mpr hid
  have holder (c : TyId) (hc : c ∈ params ++ [result]) := (h.components_older hid c hc).2
  have hlast := unfoldWithin_kept (.refl _) (holder result (by simp)) hresult
  have hinner : params.mapM (s.unfoldWithin id.index) = .ok inner := by
    refine Outcome.mapM_eq_ok.mpr ?_
    rw [List.forall₂_iff_get] at hparams ⊢
    refine ⟨hparams.1, fun i hi hi' => ?_⟩
    have hmem : params.get ⟨i, hi⟩ ∈ params ++ [result] :=
      List.mem_append_left _ (List.get_mem params ⟨i, hi⟩)
    exact unfoldWithin_kept (.refl _) (holder _ hmem) (hparams.2 i hi hi')
  simp only [unfold, unfoldWithin, hget, Outcome.ok_bind, hinner, hlast]
  rfl

end TypeStore.Canonical

private theorem BindM.exec_bind_ok {α β : Type} {action : BindM FrameTable α}
    {next : α → BindM FrameTable β} {s t : BindState FrameTable} {a : α}
    (h : action.exec s = (.ok a, t)) : (action >>= next).exec s = (next a).exec t := by
  rw [exec_bind, h]

private theorem BindM.exec_primitive (p : Primitive) (s : BindState FrameTable) :
    (BindM.primitive p).exec s = (.ok (s.world.types.primitive p), s) :=
  rfl

namespace Entry

def term : TyTerm :=
  .procedure [.wrapped .slice (.wrapped .multipointer (.primitive .u8))] (.primitive .int)

example : term.text = "([][^]u8) -> int" := by decide

/-- The store holds the type of an entry under a handle, and with it the types that it is built
from. -/
structure HeldAs (types : TypeStore) (id : TyId) : Prop where
  canonical : types.Canonical
  parts : ∃ text args,
    types.get? text = some (.wrapped .multipointer (types.primitive .u8)) ∧
    types.get? args = some (.wrapped .slice text) ∧
    types.get? id = some (.procedure [args] (types.primitive .int))

namespace HeldAs

variable {types : TypeStore} {id : TyId}

private theorem issued (h : HeldAs types id) : types.Issued id := by
  obtain ⟨text, args, -, -, hid⟩ := h.parts
  exact ⟨_, hid⟩

private theorem unfold (h : HeldAs types id) : types.unfold id = .ok term := by
  obtain ⟨text, args, htext, hargs, hid⟩ := h.parts
  have hbyte := h.canonical.unfold_primitive .u8
  have hstring := h.canonical.unfold_wrapped htext hbyte
  have hstrings := h.canonical.unfold_wrapped hargs hstring
  exact h.canonical.unfold_procedure hid (.cons hstrings .nil) (h.canonical.unfold_primitive .int)

private theorem mainType_exec {s : BindState FrameTable} (h : HeldAs s.world.types id) :
    mainType.exec s = (.ok id, s) := by
  obtain ⟨text, args, htext, hargs, hid⟩ := h.parts
  have hasked (t : Ty) {found : TyId} (hfound : s.world.types.get? found = some t) :
      (BindM.intern fun types => types.intern t).exec s = (.ok found, s) := by
    rw [BindM.exec_intern, TypeStore.intern_held h.canonical hfound]
  have hfirst : (BindM.wrap .multipointer (s.world.types.primitive .u8)).exec s = (.ok text, s) :=
    hasked (.wrapped _ _) htext
  have hsecond : (BindM.wrap .slice text).exec s = (.ok args, s) := hasked (.wrapped _ _) hargs
  have hlast : (BindM.procedureType [args] (s.world.types.primitive .int)).exec s = (.ok id, s) :=
    hasked (.procedure _ _) hid
  unfold mainType
  rw [BindM.exec_bind_ok (BindM.exec_primitive .u8 s), BindM.exec_bind_ok hfirst,
    BindM.exec_bind_ok hsecond, BindM.exec_bind_ok (BindM.exec_primitive .int s), hlast]

end HeldAs

/-- Asking for a type whose components are there adds at most that type. -/
theorem intern_exec {s : BindState FrameTable} (h : s.world.types.Canonical) (t : Ty)
    (ht : ∀ c ∈ t.components, s.world.types.Issued c) :
    ∃ id types, (BindM.intern fun types => types.intern t).exec s =
        (.ok id, { s with world.types := types }) ∧
      s.world.types.toArena.Extends types.toArena ∧ types.Canonical ∧ types.get? id = some t := by
  have hi := TypeStore.intern_interned h t
  obtain ⟨id, hid⟩ := (hi.accepted_iff h).mpr ht
  refine ⟨id, _, ?_, hi.grows, hi.kept h, hi.holds hid⟩
  rw [BindM.exec_intern, hid]

private theorem mainType_held {s : BindState FrameTable} (h : s.world.types.Canonical) :
    ∃ id types, mainType.exec s = (.ok id, { s with world.types := types }) ∧
      s.world.types.toArena.Extends types.toArena ∧ HeldAs types id := by
  obtain ⟨text, types₁, hfirst, hgrow₁, h₁, htext⟩ :=
    intern_exec h (.wrapped .multipointer (s.world.types.primitive .u8))
      (by simpa [Ty.components] using ⟨_, h.get?_primitive .u8⟩)
  obtain ⟨args, types₂, hsecond, hgrow₂, h₂, hargs⟩ :=
    intern_exec (s := { s with world.types := types₁ }) h₁ (.wrapped .slice text)
      (by simpa [Ty.components] using ⟨_, htext⟩)
  have hcomponents : ∀ c ∈ (Ty.procedure [args] (types₂.primitive .int)).components,
      types₂.Issued c := by
    simp only [Ty.components, List.singleton_append, List.forall_mem_cons]
    exact ⟨⟨_, hargs⟩, ⟨_, h₂.get?_primitive .int⟩, by simp⟩
  obtain ⟨id, types₃, hlast, hgrow₃, h₃, hid⟩ :=
    intern_exec (s := { s with world.types := types₂ }) h₂
      (.procedure [args] (types₂.primitive .int)) hcomponents
  refine ⟨id, types₃, ?_, hgrow₁.trans (hgrow₂.trans hgrow₃), h₃, text, args, ?_, ?_, ?_⟩
  · unfold mainType
    rw [BindM.exec_bind_ok (BindM.exec_primitive .u8 _)]
    exact ((BindM.exec_bind_ok hfirst).trans (BindM.exec_bind_ok hsecond)).trans
      ((BindM.exec_bind_ok (BindM.exec_primitive .int _)).trans hlast)
  · rw [TypeStore.primitive_kept (hgrow₁.trans (hgrow₂.trans hgrow₃))]
    exact hgrow₃.kept (hgrow₂.kept htext)
  · exact hgrow₃.kept hargs
  · rw [TypeStore.primitive_kept hgrow₃]
    exact hid

def failure (u : Universe FrameTable) (problem : BindProblem) (span : Span) : BindFailure :=
  .error { problem, span, place := BindM.placeOf u.files span }

/-- The answers to the question for an entry in a universe. -/
inductive Answer (u : Universe FrameTable) (file : FileId) : Except BindFailure NodeId → Prop
  | missing (lookup : u.lookup name = none) :
      Answer u file (.error (failure u .missingMain ⟨file, 0, 0⟩))
  | found {id : NodeId} {type : TyId} (lookup : u.lookup name = some id)
      (typeOf : u.graph.typeOf id = .ok type) (unfold : u.types.unfold type = .ok term) :
      Answer u file (.ok id)
  | other {id : NodeId} {type : TyId} {node : Node} {actual : TyTerm}
      (lookup : u.lookup name = some id) (typeOf : u.graph.typeOf id = .ok type)
      (unfold : u.types.unfold type = .ok actual) (ne : actual ≠ term)
      (get : u.graph.get? id = some node) :
      Answer u file (.error (failure u (.badMain term.text actual.text) node.span))

section Check

variable {s : BindState FrameTable} {id : NodeId} (file : FileId)

private theorem check_missing (h : s.world.lookup name = none) :
    (check file).exec s = (.error (failure s.world .missingMain ⟨file, 0, 0⟩), s) := by
  have hvisible : (BindM.visible? Universe.root name).exec s = (.ok none, s) :=
    congrArg (fun found => (Except.ok found, s)) h
  unfold check
  rw [BindM.exec_bind_ok hvisible]
  rfl

section Visible

variable {expected actual : TyId} {t : BindState FrameTable}

private theorem check_visible (h : s.world.lookup name = some id)
    (hmain : mainType.exec s = (.ok expected, t)) (htype : t.world.graph.typeOf id = .ok actual) :
    (check file).exec s = (if actual = expected then pure id else do
      let node ← BindM.ask fun u => u.graph.get id
      let text ← BindM.typeText expected
      let text' ← BindM.typeText actual
      BindM.fail (.badMain text text') node.span : BindM FrameTable NodeId).exec t := by
  have hvisible : (BindM.visible? Universe.root name).exec s = (.ok (some id), s) :=
    congrArg (fun found => (Except.ok found, s)) h
  unfold check
  rw [BindM.exec_bind_ok hvisible, BindM.exec_bind_ok hmain, BindM.typeOf, BindM.exec_ask_bind,
    htype]

private theorem check_agrees (h : s.world.lookup name = some id)
    (hmain : mainType.exec s = (.ok expected, t))
    (htype : t.world.graph.typeOf id = .ok expected) : (check file).exec s = (.ok id, t) := by
  rw [check_visible file h hmain htype, if_pos rfl]
  rfl

private theorem check_differs (h : s.world.lookup name = some id)
    (hmain : mainType.exec s = (.ok expected, t)) (htype : t.world.graph.typeOf id = .ok actual)
    (hne : actual ≠ expected) {node : Node} (hnode : t.world.graph.get? id = some node)
    {text text' : Bytes} (htext : t.world.types.format expected = .ok text)
    (htext' : t.world.types.format actual = .ok text') :
    (check file).exec s = (.error (failure t.world (.badMain text text') node.span), t) := by
  have hget := (Arena.get_eq_ok_iff _ _ _).mpr hnode
  rw [check_visible file h hmain htype, if_neg hne, BindM.exec_ask_bind, hget]
  dsimp only
  rw [BindM.typeText, BindM.exec_ask_bind, htext]
  dsimp only
  rw [BindM.typeText, BindM.exec_ask_bind, htext']
  rfl

end Visible

end Check

/-- What a check leads to: an answer, and the state as it was but for types that were added. The
same check gives the same answer there and changes nothing. -/
structure Settled (s : BindState FrameTable) (file : FileId)
    (r : Except BindFailure NodeId × BindState FrameTable) : Prop where
  answer : Answer s.world file r.1
  state : ∃ types, r.2 = { s with world.types := types } ∧
    s.world.types.toArena.Extends types.toArena
  again : (check file).exec r.2 = r

private theorem check_settled {s : BindState FrameTable} {roots : List NodeId}
    (h : s.world.Sound roots) (file : FileId) : Settled s file ((check file).exec s) := by
  cases hlookup : s.world.lookup name with
  | none =>
    have hrun := check_missing file hlookup
    rw [hrun]
    exact ⟨.missing hlookup, ⟨_, rfl, .refl _⟩, hrun⟩
  | some id =>
    have hid : s.world.graph.Issued id := (h.lookup hlookup).issued
    obtain ⟨node, hnode⟩ := hid
    obtain ⟨type, htype, hissued⟩ := h.typeOf ⟨node, hnode⟩
    obtain ⟨actual, hactual⟩ := TypeStore.unfold_total h.types hissued
    obtain ⟨expected, types, hmain, hgrow, hheld⟩ := mainType_held h.types
    -- Unfolded, a type stays what it is while types are added, so both stores tell the same.
    have hkept : types.unfold type = .ok actual := TypeStore.unfoldWithin_kept hgrow le_rfl hactual
    have hsame := TypeStore.unfold_eq_iff hheld.canonical hkept hheld.unfold
    let after : BindState FrameTable := { s with world.types := types }
    have hvisible : after.world.lookup name = some id := hlookup
    have hagain : mainType.exec after = (.ok expected, after) := hheld.mainType_exec
    by_cases hterm : actual = term
    · obtain rfl := hsame.mpr hterm
      have hrun := check_agrees file hlookup hmain htype
      rw [hrun]
      refine ⟨.found hlookup htype (hterm ▸ hactual), ⟨types, rfl, hgrow⟩, ?_⟩
      exact check_agrees file hvisible hagain htype
    · have hne : type ≠ expected := fun heq => hterm (hsame.mp heq)
      have htext := TypeStore.format_of_unfold hheld.issued hheld.unfold
      have htext' := TypeStore.format_of_unfold (hgrow.issued hissued) hkept
      have hrun := check_differs file hlookup hmain htype hne hnode htext htext'
      rw [hrun]
      refine ⟨.other hlookup htype hactual hterm hnode, ⟨types, rfl, hgrow⟩, ?_⟩
      exact check_differs file hvisible hagain htype hne hnode htext htext'

end Entry

namespace Session

open Entry (failure)

/-- The entry check is structural. Whatever files were bound before, with whatever outcome, it finds
a node exactly if `main` is bound at the top and its type, with all components unfolded, is the one
of an entry. Otherwise it reports that `main` is missing, or two texts of types that differ. It
leaves the nodes, the scopes and the types that were there, and when it is done again it gives the
same answer and adds no type. -/
theorem run_entry_structural (files : FileSet) (calls : List BindCall) (file : FileId)
    (log : TraceLog) (parent : Nat) :
    let u := (run files calls).world
    let r := (Entry.check file).exec ⟨u, log, parent⟩
    (∀ id, r.1 = .ok id ↔ u.lookup "main" = some id ∧
      ∃ type, u.graph.typeOf id = .ok type ∧ u.types.unfold type = .ok
        (.procedure [.wrapped .slice (.wrapped .multipointer (.primitive .u8))]
          (.primitive .int))) ∧
    (∀ e, r.1 = .error e →
      u.lookup "main" = none ∧ e = failure u .missingMain ⟨file, 0, 0⟩ ∨
      ∃ id node type text text', u.lookup "main" = some id ∧ u.graph.get? id = some node ∧
        u.graph.typeOf id = .ok type ∧ u.types.format type = .ok text' ∧ text ≠ text' ∧
        e = failure u (.badMain text text') node.span) ∧
    r.2.world.graph = u.graph ∧ r.2.world.scopes = u.scopes ∧
    u.types.toArena.Extends r.2.world.types.toArena ∧
    (Entry.check file).exec r.2 = r := by
  intro u r
  have hsound : u.Sound _ := (run_sound files calls).world
  have hsettled : Entry.Settled ⟨u, log, parent⟩ file r := Entry.check_settled hsound file
  obtain ⟨hanswer, ⟨types, hstate, hgrow⟩, hagain⟩ := hsettled
  refine ⟨fun id => ⟨fun hok => ?_, ?_⟩, fun e he => ?_, ?_, ?_, ?_, hagain⟩
  · rw [hok] at hanswer
    cases hanswer with
    | found hlookup htype hunfold => exact ⟨hlookup, _, htype, hunfold⟩
  · rintro ⟨hlookup, type, htype, hunfold⟩
    generalize r.1 = result at hanswer
    cases hanswer with
    | missing hnone => cases hnone.symm.trans hlookup
    | found hfound => rw [Option.some.inj (hfound.symm.trans hlookup)]
    | other hfound htype' hunfold' hne =>
      obtain rfl := Option.some.inj (hfound.symm.trans hlookup)
      obtain rfl := Except.ok.inj (htype'.symm.trans htype)
      exact absurd (Except.ok.inj (hunfold'.symm.trans hunfold)) hne
  · rw [he] at hanswer
    generalize herror : (Except.error e : Except BindFailure NodeId) = result at hanswer
    cases hanswer with
    | missing hlookup => exact .inl ⟨hlookup, Except.error.inj herror⟩
    | found => cases herror
    | other hlookup htype hunfold hne hnode =>
      obtain ⟨type, htype', hissued⟩ := hsound.typeOf ⟨_, hnode⟩
      obtain rfl := Except.ok.inj (htype'.symm.trans htype)
      have htext := TypeStore.format_of_unfold hissued hunfold
      refine .inr ⟨_, _, _, _, _, hlookup, hnode, htype, htext, ?_, Except.error.inj herror⟩
      exact fun htexts => hne (TyTerm.text_injective htexts).symm
  · rw [hstate]
  · rw [hstate]
  · rw [hstate]
    exact hgrow

end Session

end Keywordless
