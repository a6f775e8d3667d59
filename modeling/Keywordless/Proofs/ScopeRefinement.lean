import Keywordless.Proofs.BindTwins
import Keywordless.Proofs.Frames
import Keywordless.Proofs.Session

/-!
# Frames refine copies

Binding over frames with parents and binding over full copies of the visible names give the same.
The two stores differ as such: a name that is bound in a scope later shows in the frames below it
and not in the copies that were made before. Binding never looks at such a copy again.
-/

namespace Keywordless

structure ScopesAgree (scope : Nat) (s : FrameTable) (t : CopyTable) : Prop where
  size : s.frames.size = t.tables.size
  inside : scope < s.frames.size
  ordered : s.Ordered
  lookup : ∀ name, s.lookup scope name = t.lookup scope name

namespace ScopesAgree

variable {scope i : Nat} {s : FrameTable} {t : CopyTable}

private theorem child (h : ScopesAgree scope s t) :
    ScopesAgree (s.child scope).1 (s.child scope).2 (t.child scope).2 where
  size := by simp [FrameTable.child, CopyTable.child, h.size]
  inside := by simp [FrameTable.child]
  ordered := h.ordered.child h.inside
  lookup name := by
    rw [FrameTable.lookup_child h.ordered h.inside, h.lookup]
    simp [CopyTable.lookup, CopyTable.child, FrameTable.child, h.size]

private theorem child_kept (h : ScopesAgree scope s t) (hi : ScopesAgree i s t) :
    ScopesAgree i (s.child scope).2 (t.child scope).2 where
  size := by simp [FrameTable.child, CopyTable.child, h.size]
  inside := by
    have hinside := hi.inside
    simp only [FrameTable.child, Array.size_push]
    omega
  ordered := h.ordered.child h.inside
  lookup name := by
    have hinside := hi.inside
    have hbefore (j : Nat) (hj : j ≤ i) : (s.child scope).2.frames[j]? = s.frames[j]? :=
      s.child_getElem? scope (by omega)
    rw [FrameTable.lookup_congr (h.ordered.child h.inside) h.ordered hbefore, hi.lookup]
    have hsize := h.size
    simp [CopyTable.lookup, CopyTable.child, Array.getD_eq_getD_getElem?, Array.getElem?_push,
      show i ≠ t.tables.size by omega]

private theorem insert (h : ScopesAgree scope s t) (name : Bytes) (id : NodeId) :
    ScopesAgree scope (s.insert scope name id) (t.insert scope name id) where
  size := by simp [FrameTable.insert, CopyTable.insert, h.size]
  inside := by simpa [FrameTable.insert] using h.inside
  ordered := h.ordered.insert scope name id
  lookup other := by
    have hinside : scope < t.tables.size := h.size ▸ h.inside
    rw [FrameTable.lookup_insert h.ordered h.inside, h.lookup]
    simp [CopyTable.lookup, CopyTable.insert, hinside, Array.getElem_modify_self,
      Names.lookup_bind]

private theorem insert_kept (h : ScopesAgree scope s t) (hlt : i < scope) (hi : ScopesAgree i s t)
    (name : Bytes) (id : NodeId) :
    ScopesAgree i (s.insert scope name id) (t.insert scope name id) where
  size := (h.insert name id).size
  inside := by simpa [FrameTable.insert] using hi.inside
  ordered := h.ordered.insert scope name id
  lookup other := by
    have hbefore (j : Nat) (hj : j ≤ i) : (s.insert scope name id).frames[j]? = s.frames[j]? :=
      s.insert_getElem? (by omega) name id
    rw [FrameTable.lookup_congr (h.ordered.insert scope name id) h.ordered hbefore, hi.lookup]
    have hne : scope ≠ i := by omega
    simp [CopyTable.lookup, CopyTable.insert, Array.getD_eq_getD_getElem?, Array.getElem?_modify,
      hne]

end ScopesAgree

def Comparison.framesCopies : Comparison FrameTable CopyTable where
  agree := ScopesAgree
  sameFiles := True
  spots _ := True
  spots_none := trivial
  known _ := True
  known_insert _ _ := trivial
  lookup_eq h := h.lookup
  child_eq h := h.size
  child_lt h := h.inside
  child_agree h := h.child
  child_kept h hi := h.child_kept hi
  insert_agree h := h.insert
  insert_kept h hlt hi := h.insert_kept hlt hi

namespace Universe

open Comparison (framesCopies)

def bindAll {τ : Type} [ScopeStore τ] (u : Universe τ) :
    List BindCall → List (Except BindFailure NodeId) × Universe τ
  | [] => ([], u)
  | call :: rest =>
    let (result, s) := call.file.bind.exec ⟨{ u with files := call.files }, call.log, call.parent⟩
    let (results, v) := s.world.bindAll rest
    (result :: results, v)

/-- The universes are the same up to how they keep scopes, and the root scopes look the same. -/
def Refines (u : Universe FrameTable) (v : Universe CopyTable) : Prop :=
  framesCopies.Alike u v ∧ ScopesAgree root u.scopes v.scopes

variable {u : Universe FrameTable} {v : Universe CopyTable}

private theorem ofFiles_refines (files : FileSet) :
    (ofFiles files : Universe FrameTable).Refines (ofFiles files) := by
  refine Comparison.alike_ofFiles ?_ trivial rfl fun _ => rfl
  exact ⟨rfl, Nat.zero_lt_one, FrameTable.ordered_root, fun name => rfl⟩

/-- One more file gives the same and leaves the universes the same. -/
theorem Refines.bind (h : u.Refines v) (call : BindCall) :
    let s := call.file.bind.exec ⟨{ u with files := call.files }, call.log, call.parent⟩
    let t := call.file.bind.exec ⟨{ v with files := call.files }, call.log, call.parent⟩
    s.1 = t.1 ∧ s.2.world.Refines t.2.world := by
  obtain ⟨hworld, hscope⟩ := h
  have hitems := Expr.allSpansIn_true call.file.items
  have hmirrored := SyntaxFile.bind_mirrored (c := framesCopies) hitems trivial
  obtain ⟨hresult, hworld', hkept⟩ :=
    hmirrored ⟨{ u with files := call.files }, call.log, call.parent⟩
      ⟨{ v with files := call.files }, call.log, call.parent⟩
      ⟨hworld.graph, hworld.types, fun _ => rfl, fun _ _ => trivial, trivial⟩ hscope
  exact ⟨hresult.eq trivial, hworld', hkept.here⟩

/-- Whatever files are bound one after the other, the run over frames gives the results and errors
of the run over copies and leaves the same nodes, the same types and the same names in the root
scope. -/
theorem bindAll_frames_eq_copies (files : FileSet) (calls : List BindCall) :
    let framed := (ofFiles files : Universe FrameTable).bindAll calls
    let copied := (ofFiles files : Universe CopyTable).bindAll calls
    framed.1 = copied.1 ∧ framed.2.graph = copied.2.graph ∧ framed.2.types = copied.2.types ∧
      ∀ name, framed.2.lookup name = copied.2.lookup name := by
  have hrun {u : Universe FrameTable} {v : Universe CopyTable} (h : u.Refines v) :
      (u.bindAll calls).1 = (v.bindAll calls).1 ∧
        (u.bindAll calls).2.Refines (v.bindAll calls).2 := by
    induction calls generalizing u v with
    | nil => exact ⟨rfl, h⟩
    | cons call rest ih =>
      obtain ⟨hresult, hafter⟩ := h.bind call
      obtain ⟨hresults, hend⟩ := ih hafter
      exact ⟨congrArg₂ List.cons hresult hresults, hend⟩
  obtain ⟨hresults, hworld, hscope⟩ := hrun (ofFiles_refines files)
  exact ⟨hresults, hworld.graph, hworld.types, hscope.lookup⟩

end Universe

end Keywordless
