import Keywordless.Proofs.BindSound

/-!
# Sessions

Files are bound one after the other in one universe. Whatever trees they hold and whether or not
they can be bound, every node that the session leaves behind follows its typing rule.
-/

namespace Keywordless

open BindM (Leads)

namespace SyntaxFile

variable {roots : List NodeId} {whole : Prop} {u : Universe FrameTable}

private theorem requireItem_leads {e : Expr} (h : u.Sound roots) (hwhole : whole → e.Complete) :
    Leads roots whole u (requireItem e) fun _ v => u = v := by
  cases e with
  | absent => exact .throw h rfl fun hw => (hwhole hw).elim
  | node head type value body list =>
    unfold requireItem
    dsimp only
    split
    · exact .pure h rfl
    · exact .fail h rfl fun _ => rfl

theorem bindItems_leads {items : List Expr} (h : u.Sound roots)
    (hwhole : whole → ∀ e ∈ items, e.Complete) :
    Leads roots whole u (bindItems items) fun ids v => ∀ id ∈ ids, v.graph.Issued id := by
  induction items generalizing u with
  | nil => exact .pure h (by simp)
  | cons e rest ih =>
    have hfirst (hw : whole) := hwhole hw e List.mem_cons_self
    refine .bind (requireItem_leads h hfirst) ?_
    rintro _ _ - - rfl
    have hbind := (Expr.bind_binds roots e).of_whole hfirst
    refine .bind (hbind u Universe.root none h (by simp)) fun id v hgrow hv hid => ?_
    refine .bind (ih hv fun hw d hd => hwhole hw d (List.mem_cons_of_mem _ hd)) ?_
    intro ids w hgrow' hw hids
    exact .pure hw (List.forall_mem_cons.mpr ⟨hgrow'.graph.issued hid.1, hids⟩)

inductive Ended (roots : List NodeId) (whole : Prop) :
    Except BindFailure NodeId → Universe FrameTable → Prop
  | bound {root : NodeId} {v : Universe FrameTable} {span : Span} {exprs : List NodeId}
      (sound : v.Sound (root :: roots))
      (block : v.graph.get? root = some ⟨span, .block exprs (v.types.primitive .void)⟩) :
      Ended roots whole (.ok root) v
  | failed {e : BindFailure} {v : Universe FrameTable} (sound : v.Sound roots)
      (regular : whole → e.isRegular) (reachable : e.isReachable) : Ended roots whole (.error e) v

theorem Ended.sound {result : Except BindFailure NodeId} {v : Universe FrameTable}
    (h : Ended roots whole result v) : ∃ roots, v.Sound roots := by
  cases h with
  | bound hsound _ => exact ⟨_, hsound⟩
  | failed hsound => exact ⟨_, hsound⟩

theorem bind_ended (f : SyntaxFile) {s : BindState FrameTable} (h : s.world.Sound roots)
    (hwhole : whole → ∀ e ∈ f.items, e.Complete) :
    s.world.Extends (f.bind.exec s).2.world ∧
      Ended roots whole (f.bind.exec s).1 (f.bind.exec s).2.world := by
  obtain ⟨hgrow, hsound, hresult⟩ := bindItems_leads h hwhole s rfl
  unfold SyntaxFile.bind
  rw [BindM.exec_bind]
  rcases hitems : (bindItems f.items).exec s with ⟨_ | ids, t⟩
  · rw [hitems] at hgrow hsound hresult
    exact ⟨hgrow, .failed hsound hresult.1 hresult.2⟩
  · rw [hitems] at hgrow hsound hresult
    refine ⟨hgrow.trans ⟨Arena.insert_extends _ _, .refl _⟩, ?_⟩
    exact .bound (hsound.makeRoot hresult) (Arena.get?_insert_self _ _)

end SyntaxFile

structure BindCall where
  files : FileSet
  file : SyntaxFile
  log : TraceLog
  parent : Nat

/-- A universe in which files were bound, and the blocks of those that could be, the last one
first. -/
structure Session where
  world : Universe FrameTable
  roots : List NodeId

namespace Session

def bind (s : Session) (call : BindCall) : Session :=
  let (result, t) :=
    call.file.bind.exec ⟨{ s.world with files := call.files }, call.log, call.parent⟩
  ⟨t.world, result.toOption.toList ++ s.roots⟩

def run (files : FileSet) (calls : List BindCall) : Session :=
  calls.foldl bind ⟨.ofFiles files, []⟩

/-- The typing rules hold in the universe, and the blocks of whole files are what they should be. -/
structure Sound (s : Session) : Prop where
  world : s.world.Sound s.roots
  blocks : ∀ root ∈ s.roots, ∃ span exprs,
    s.world.graph.get? root = some ⟨span, .block exprs (s.world.types.primitive .void)⟩

/-- A file that is bound, and one that is not, leaves the session sound. -/
theorem Sound.bind {s : Session} (h : s.Sound) (call : BindCall) : (s.bind call).Sound := by
  obtain ⟨files, file, log, parent⟩ := call
  let start : BindState FrameTable := ⟨{ s.world with files := files }, log, parent⟩
  have hstart : start.world.Sound s.roots := h.world.withFiles files
  obtain ⟨hgrow, hended⟩ := file.bind_ended hstart False.elim
  have hblocks (root : NodeId) (hr : root ∈ s.roots) : ∃ span exprs,
      (file.bind.exec start).2.world.graph.get? root =
        some ⟨span, .block exprs ((file.bind.exec start).2.world.types.primitive .void)⟩ := by
    obtain ⟨span, exprs, hroot⟩ := h.blocks root hr
    rw [TypeStore.primitive_kept hgrow.types]
    exact ⟨span, exprs, hgrow.graph.kept hroot⟩
  change Session.Sound ⟨(file.bind.exec start).2.world,
    (file.bind.exec start).1.toOption.toList ++ s.roots⟩
  generalize file.bind.exec start = outcome at hended hblocks
  obtain ⟨result, t⟩ := outcome
  cases hended with
  | bound hsound hblock => exact ⟨hsound, List.forall_mem_cons.mpr ⟨⟨_, _, hblock⟩, hblocks⟩⟩
  | failed hsound _ => exact ⟨hsound, hblocks⟩

theorem run_sound (files : FileSet) (calls : List BindCall) : (run files calls).Sound := by
  have hcalls {s : Session} (h : s.Sound) : (calls.foldl Session.bind s).Sound := by
    induction calls generalizing s with
    | nil => exact h
    | cons call rest ih => exact ih (h.bind call)
  exact hcalls ⟨Universe.ofFiles_sound files, by simp⟩

/-- Every node that a session leaves behind follows its typing rule, files that could not be bound
among those that were tried. The blocks of whole files have no value. A type that a rule speaks of
is the only one with its descriptor, so that asking for that descriptor again gives it back. -/
theorem run_wellTyped (files : FileSet) (calls : List BindCall) :
    let s := run files calls
    (∀ id node, s.world.graph.get? id = some node →
      node.shape.WellTyped s.world.graph s.world.types (id ∈ s.roots)) ∧
    (∀ root ∈ s.roots, ∃ span exprs,
      s.world.graph.get? root = some ⟨span, .block exprs (s.world.types.primitive .void)⟩) ∧
    (∀ id type, s.world.types.get? id = some type →
      s.world.types.intern type = (.ok id, s.world.types)) := by
  intro s
  have h : s.Sound := run_sound files calls
  exact ⟨fun _ _ => h.world.typed, h.blocks, fun _ _ => TypeStore.intern_held h.world.types⟩

end Session

end Keywordless
