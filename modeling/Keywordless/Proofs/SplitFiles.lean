import Keywordless.Proofs.BindRenamed
import Keywordless.Proofs.BindYields
import Keywordless.Proofs.FromText

/-!
# Files in two parts

Items are bound one after the other, so that it makes little difference whether the items of a file
are bound at once or as two files. The first of two files gets a block of its own, which moves the
handles of all later nodes by one; apart from that, and from the blocks themselves, everything ends
the same. A file that cannot be bound leaves the root scope as the items before the bad one do.
-/

namespace Keywordless

/-- What becomes of a handle when the node `gap` is put in between. -/
def Handle.past {κ : Type} (gap id : Handle κ) : Handle κ :=
  if gap.index ≤ id.index then ⟨id.arena, id.index + 1⟩ else id

namespace Handle

variable {κ : Type} {gap id : Handle κ}

private theorem past_of_lt (h : id.index < gap.index) : gap.past id = id := if_neg (by omega)

private theorem past_of_le (h : gap.index ≤ id.index) :
    gap.past id = ⟨id.arena, id.index + 1⟩ := if_pos h

private theorem le_past (gap id : Handle κ) : id.index ≤ (gap.past id).index := by
  unfold past
  split
  · exact Nat.le_succ _
  · exact le_rfl

private theorem past_injective (gap : Handle κ) : Function.Injective gap.past := by
  rintro ⟨arena, index⟩ ⟨arena', index'⟩ h
  unfold past at h
  dsimp only at h
  split at h <;> split at h <;> simp only [Handle.mk.injEq] at h ⊢ <;> omega

end Handle

/-! ### One more node -/

namespace Graph

variable {g g' : Graph} {gap : NodeId}

private theorem Ordered.renamed_past (h : g.Ordered) (node : Node) :
    Renamed (g.insert node).1.past g (g.insert node).2 := by
  have hold {id : NodeId} (hid : g.Issued id) : (g.insert node).1.past id = id :=
    Handle.past_of_lt (Arena.issued_lt_insert hid node)
  refine ⟨?_, Handle.le_past _, ?_⟩
  · intro id found hfound
    have hsame : found.rename (g.insert node).1.past = found := by
      rw [Node.rename, Shape.rename_eq_self fun e he => hold (h.older hfound e he).1]
    rw [hold ⟨found, hfound⟩, hsame]
    exact (Arena.insert_extends g node).kept hfound
  · intro n
    rw [Handle.past_of_le (by simp [Arena.insert, Arena.size])]
    simp only [Arena.insert, Arena.size, Array.size_push, Handle.mk.injEq, true_and]
    omega

private theorem Renamed.size_past (h : g.Renamed gap.past g') (hgap : gap.index ≤ g.size + 1) :
    g'.tag = g.tag ∧ g'.size = g.size + 1 := by
  have hfresh := h.fresh 0
  rw [Handle.past_of_le (by simpa using hgap)] at hfresh
  simp only [Nat.add_zero, Handle.mk.injEq] at hfresh
  omega

private theorem Renamed.get?_past (h : g.Renamed gap.past g') (hpos : 0 < gap.index)
    (hgap : gap.index ≤ g.size + 1) (id : NodeId) :
    g'.get? (gap.past id) = (g.get? id).map (Node.rename gap.past) := by
  cases hid : g.get? id with
  | some node => exact h.nodes hid
  | none =>
    obtain ⟨htag, hsize⟩ := h.size_past hgap
    rw [Option.map_none, Option.eq_none_iff_forall_ne_some]
    intro node hnode
    have hissued := (Arena.issued_iff g' _).mp ⟨node, hnode⟩
    have hold : g.Issued id := by
      rw [Arena.issued_iff]
      unfold Handle.past at hissued
      split at hissued
      · exact ⟨hissued.1.trans htag, by omega, by simpa [hsize] using hissued.2.2⟩
      · exact ⟨hissued.1.trans htag, hissued.2.1, by omega⟩
    obtain ⟨found, hfound⟩ := hold
    cases hfound.symm.trans hid

end Graph

namespace Universe

private theorem Linked.renamed_past {u : Universe FrameTable} (h : u.Linked) (node : Node) :
    u.Renamed (u.graph.insert node).1.past { u with graph := (u.graph.insert node).2 } := by
  refine ⟨h.ordered.renamed_past node, rfl, ?_, rfl, rfl⟩
  refine (FrameTable.rename_eq_self fun frame hframe entry hentry => ?_).symm
  exact Handle.past_of_lt (Arena.issued_lt_insert (h.names hframe hentry) node)

private theorem Renamed.refl (u : Universe FrameTable) : u.Renamed id u := by
  refine ⟨⟨?_, fun _ => le_rfl, fun _ => rfl⟩, rfl, ?_, rfl, rfl⟩
  · intro found node hnode
    have hsame : node.shape.rename id = node.shape := Shape.rename_eq_self fun _ _ => rfl
    rw [Node.rename, hsame]
    exact hnode
  · exact (FrameTable.rename_eq_self fun _ _ _ _ => rfl).symm

end Universe

/-! ### Items one after the other -/

namespace SyntaxFile

open BindM (exec)

variable {s t : BindState FrameTable} {xs : List Expr} {e : BindFailure}

private theorem bindItems_append (xs ys : List Expr) :
    (bindItems (xs ++ ys) : BindM FrameTable (List NodeId)) = do
      let before ← bindItems xs
      let after ← bindItems ys
      return before ++ after := by
  induction xs with
  | nil => simp [bindItems]
  | cons e rest ih => simp [bindItems, ih]

private theorem exec_bindItems_append {before : List NodeId}
    (h : (bindItems xs).exec s = (.ok before, t)) (ys : List Expr) :
    (bindItems (xs ++ ys)).exec s =
      match (bindItems ys).exec t with
      | (.ok after, u) => (.ok (before ++ after), u)
      | (.error e, u) => (.error e, u) := by
  rw [bindItems_append, BindM.exec_bind, h]
  dsimp only
  rw [BindM.exec_bind]
  rcases (bindItems ys).exec t with ⟨_ | _, _⟩ <;> rfl

private theorem exec_bindItems_append_error (h : (bindItems xs).exec s = (.error e, t))
    (ys : List Expr) : (bindItems (xs ++ ys)).exec s = (.error e, t) := by
  rw [bindItems_append, BindM.exec_bind, h]

def rootBlock (f : SyntaxFile) (ids : List NodeId) (u : Universe FrameTable) : Node :=
  ⟨⟨f.span.file, 0, 0⟩, .block ids (u.types.primitive .void)⟩

/-- What is left to do once the items of a file are bound. The nodes `before` come first in its
block. -/
def finish (f : SyntaxFile) (before : List NodeId) :
    Except BindFailure (List NodeId) × BindState FrameTable →
      Except BindFailure NodeId × BindState FrameTable
  | (.ok ids, t) =>
    let (root, graph) := t.world.graph.insert (f.rootBlock (before ++ ids) t.world)
    (.ok root, { t with world.graph := graph })
  | (.error e, t) => (.error e, t)

private theorem finish_scopes (f : SyntaxFile) (before : List NodeId)
    (r : Except BindFailure (List NodeId) × BindState FrameTable) :
    (f.finish before r).2.world.scopes = r.2.world.scopes := by
  rcases r with ⟨_ | _, _⟩ <;> rfl

private theorem exec_bind (f : SyntaxFile) (s : BindState FrameTable) :
    f.bind.exec s = f.finish [] ((bindItems f.items).exec s) := by
  unfold SyntaxFile.bind
  rw [BindM.exec_bind]
  rcases (bindItems f.items).exec s with ⟨_ | _, _⟩ <;> rfl

end SyntaxFile

/-! ### Where a file stops -/

private theorem Binder.constant_error {h : ExprHead} {type value : Part FrameTable}
    {scope : ScopeId}
    {hint : Hint} {s : BindState FrameTable} {e : BindFailure} (hs : s.world.Linked)
    (htype : type.Renames id) (hvalue : value.Renames id)
    (herror : ((constant h type value scope hint).exec s).1 = .error e) :
    ∀ i < s.world.scopes.frames.size,
      ((constant h type value scope hint).exec s).2.world.scopes.frames[i]? =
        s.world.scopes.frames[i]? := by
  -- Up to its value a constant binds names in new scopes only. So the one scope whose frame may
  -- change can be taken past the end.
  have hkeeps : FrameTable.Keeps s.world.scopes.frames.size s.world.scopes
      ((constantValue h type value scope hint).exec s).2.world.scopes :=
    (constantValue_renames htype hvalue s s hs (.refl _) (.refl _)).keeps
  rw [constant_eq, BindM.exec_bind] at herror ⊢
  rcases hrun : (constantValue h type value scope hint).exec s with ⟨_ | found, u⟩
  · rw [hrun] at hkeeps
    exact fun i hi => hkeeps.frames i hi hi.ne
  · rw [hrun] at herror
    cases herror

private theorem Expr.bind_constant {h : ExprHead} (hkind : h.kind = .constant)
    {type value body : Expr} {list : List Expr} {scope : ScopeId} {hint : Hint} :
    ((node h type value body list).bind scope hint : BindM FrameTable NodeId) =
      BindM.traced ("bind:" ++ h.kind.title)
        (Binder.constant h ⟨type, type.bind⟩ ⟨value, value.bind⟩ scope hint) := by
  simp only [Expr.bind, Binder.expr, hkind]

namespace SyntaxFile

open BindM (exec)

variable {s t : BindState FrameTable} {items : List Expr} {e : BindFailure}

private theorem bindItems_keeps (hs : s.world.Linked) (items : List Expr) :
    ((bindItems items).exec s).2.world.Linked ∧
      FrameTable.Keeps Universe.root s.world.scopes
        ((bindItems items).exec s).2.world.scopes := by
  have hend : BindM.EndAlike id Universe.root s.world (BindM.SameNodes id)
      ((bindItems items).exec s) ((bindItems items).exec s) :=
    bindItems_renames s s hs (.refl _) (.refl _)
  exact ⟨hend.linked, hend.keeps⟩

private theorem bindItem_error {item : Expr} (hs : s.world.Linked)
    (h : (bindItems [item]).exec s = (.error e, t)) :
    ∀ i < s.world.scopes.frames.size, t.world.scopes.frames[i]? = s.world.scopes.frames[i]? := by
  cases item with
  | absent =>
    cases h
    exact fun _ _ => rfl
  | node head type value body list =>
    rw [bindItems, BindM.exec_bind, requireItem] at h
    split_ifs at h with hkind
    · change exec (Expr.bind _ Universe.root none >>= _) s = _ at h
      rw [BindM.exec_bind] at h
      split at h
      · cases h
      · next hrun =>
        cases h
        rw [Expr.bind_constant hkind] at hrun
        obtain ⟨inside, hinside, hresult, hafter⟩ := BindM.exec_traced ("bind:" ++ head.kind.title)
          (Binder.constant head ⟨type, type.bind⟩ ⟨value, value.bind⟩ Universe.root none) s
        rw [hrun] at hresult hafter
        have hkept := Binder.constant_error (hinside ▸ hs) (Expr.bind_renames type)
          (Expr.bind_renames value) hresult.symm
        rwa [← hafter, hinside] at hkept
    · cases h
      exact fun _ _ => rfl

/-- A file that cannot be bound stops at some item. The root scope is then as the items before that
one leave it. -/
theorem bindItems_error (hs : s.world.Linked) (hroot : 0 < s.world.scopes.frames.size)
    (h : (bindItems items).exec s = (.error e, t)) :
    ∃ before item after ids u, items = before ++ item :: after ∧
      (bindItems before).exec s = (.ok ids, u) ∧
      (bindItems (before ++ [item])).exec s = (.error e, t) ∧
      t.world.scopes.frames[Universe.root]? = u.world.scopes.frames[Universe.root]? := by
  -- Either the first item fails, with nothing before it, or it is one of those before.
  induction items generalizing s with
  | nil => cases h
  | cons item rest ih =>
    obtain ⟨hlinked, hkeeps⟩ := bindItems_keeps hs [item]
    rcases hitem : (bindItems [item]).exec s with ⟨_ | ids, u⟩
    · have hall := exec_bindItems_append_error hitem rest
      obtain ⟨rfl, rfl⟩ : _ = e ∧ u = t := by simpa using hall.symm.trans h
      exact ⟨[], item, rest, [], s, rfl, rfl, hitem, bindItem_error hs hitem _ hroot⟩
    · rw [hitem] at hlinked hkeeps
      have hrest : (bindItems rest).exec u = (.error e, t) := by
        have hall := exec_bindItems_append hitem rest
        rw [List.singleton_append, h] at hall
        rcases hrun : (bindItems rest).exec u with ⟨_ | _, _⟩ <;> simp_all
      obtain ⟨before, last, after, ids', v, rfl, hbefore, hlast, hframes⟩ :=
        ih hlinked (hroot.trans_le hkeeps.size) hrest
      refine ⟨item :: before, last, after, ids ++ ids', v, rfl, ?_, ?_, hframes⟩
      · rw [← List.singleton_append, exec_bindItems_append hitem, hbefore]
      · rw [List.cons_append, ← List.singleton_append, exec_bindItems_append hitem, hlast]

end SyntaxFile

/-! ### What can be reached -/

private theorem Entry.mainType_still : BindM.Still mainType := by
  refine .bind (.primitive _) fun _ => ?_
  refine .bind (.wrap _ _) fun _ => ?_
  refine .bind (.wrap _ _) fun _ => ?_
  exact .bind (.primitive _) fun _ => .procedureType _ _

private theorem Entry.check_still (file : FileId) : BindM.Still (check file) := by
  refine .bind (fun _ => ⟨rfl, rfl⟩) fun found => ?_
  cases found with
  | none => exact .fail _ _ _
  | some id =>
    refine .bind mainType_still fun expected => .bind (.typeOf id) fun actual => ?_
    split
    · exact .pure id
    · refine .bind (.ask _) fun node => ?_
      exact .bind (.typeText expected) fun _ => .bind (.typeText actual) fun _ => .fail _ _ _

namespace Universe

/-- The universes that can come about: files may become known, files may be bound, and entries may
be checked, in any order and with any outcome. -/
inductive Reached : Universe FrameTable → Prop
  | fresh (files : FileSet) : Reached (ofFiles files)
  | known {u : Universe FrameTable} (h : Reached u) (files : FileSet) :
      Reached { u with files := files }
  | bound {s : BindState FrameTable} (h : Reached s.world) (f : SyntaxFile) :
      Reached (f.bind.exec s).2.world
  | checked {s : BindState FrameTable} (h : Reached s.world) (file : FileId) :
      Reached ((Entry.check file).exec s).2.world
  | mainType {s : BindState FrameTable} (h : Reached s.world) :
      Reached (Entry.mainType.exec s).2.world

namespace Reached

variable {u : Universe FrameTable}

theorem sound (h : u.Reached) : ∃ roots, u.Sound roots := by
  induction h with
  | fresh files => exact ⟨[], ofFiles_sound files⟩
  | known _ files ih =>
    obtain ⟨roots, hu⟩ := ih
    exact ⟨roots, hu.withFiles files⟩
  | bound _ f ih =>
    obtain ⟨roots, hu⟩ := ih
    exact (f.bind_ended hu False.elim).2.sound
  | checked _ file ih =>
    obtain ⟨roots, hu⟩ := ih
    exact ⟨roots, (Entry.check_faultless file hu).2.1⟩
  | mainType _ ih =>
    obtain ⟨roots, hu⟩ := ih
    have hleads : BindM.Leads roots False _ Entry.mainType _ := Entry.mainType_leads hu
    exact ⟨roots, (hleads _ rfl).2.1⟩

private theorem rooted (h : u.Reached) : 0 < u.scopes.frames.size := by
  induction h with
  | fresh files =>
    simp [ofFiles, bindBuiltins, builtins, ScopeStore.insert, ScopeStore.root, FrameTable.insert]
  | known _ _ ih => exact ih
  | bound hs f ih =>
    obtain ⟨roots, hu⟩ := hs.sound
    rw [SyntaxFile.exec_bind, SyntaxFile.finish_scopes]
    exact ih.trans_le (SyntaxFile.bindItems_keeps hu.linked f.items).2.size
  | checked _ file ih => rwa [(Entry.check_still file _).2]
  | mainType _ ih => rwa [(Entry.mainType_still _).2]

end Reached

end Universe

/-! ### The two ways -/

namespace SyntaxFile

variable {s t : BindState FrameTable} {items xs : List Expr} {e : BindFailure}

def withItems (f : SyntaxFile) (items : List Expr) : SyntaxFile := { f with items }

/-- How a whole file ends, and how its second part does after a first part with the block `root`.
Past that block the second way has the same nodes, one handle further, but for the block at the
end. -/
structure SplitAt (f : SyntaxFile) (root : NodeId) (ids : List NodeId)
    (whole second : Except BindFailure NodeId × BindState FrameTable) : Prop where
  isOk : second.1.isOk = whole.1.isOk
  errors : ∀ e, second.1 = .error (.error e) ↔ whole.1 = .error (.error e)
  files : second.2.world.files = whole.2.world.files
  types : second.2.world.types = whole.2.world.types
  scopes : second.2.world.scopes = whole.2.world.scopes.rename root.past
  size : second.2.world.graph.size = whole.2.world.graph.size + 1
  nodes : ∀ id, whole.1 ≠ .ok id → second.2.world.graph.get? (root.past id) =
    (whole.2.world.graph.get? id).map (Node.rename root.past)
  first : second.2.world.graph.get? root = some (f.rootBlock ids whole.2.world)
  /-- The block of the second part lists what the block of the whole file lists after it. -/
  last : ∀ last, whole.1 = .ok last → second.1 = .ok (root.past last) ∧ ∃ ids',
    whole.2.world.graph.get? last = some (f.rootBlock (ids ++ ids') whole.2.world) ∧
    second.2.world.graph.get? (root.past last) =
      some (f.rootBlock (ids'.map root.past) whole.2.world)

/-- Binding ends at `item` with an error. The root scope is as the items before it leave it. -/
structure StopsAt (f : SyntaxFile) (s : BindState FrameTable) (before : List Expr) (item : Expr)
    (result : Except BindFailure NodeId × BindState FrameTable) : Prop where
  bound : ((f.withItems before).bind.exec s).1.isOk
  stopped : (f.withItems (before ++ [item])).bind.exec s = result
  root : result.2.world.scopes.frames[Universe.root]? =
    ((f.withItems before).bind.exec s).2.world.scopes.frames[Universe.root]?

private theorem bind_stops (hs : s.world.Linked) (hroot : 0 < s.world.scopes.frames.size)
    (f : SyntaxFile) (h : ((f.withItems items).bind.exec s).1 = .error e) : ∃ before item after,
      items = before ++ item :: after ∧
        StopsAt f s before item ((f.withItems items).bind.exec s) := by
  have hrun (list : List Expr) : (f.withItems list).bind.exec s =
      f.finish [] ((bindItems list).exec s) := exec_bind _ _
  rw [hrun] at h
  rcases hitems : (bindItems items).exec s with ⟨e' | ids, t⟩
  · obtain ⟨before, item, after, ids, u, hsplit, hbefore, hitem, hframes⟩ :=
      bindItems_error hs hroot hitems
    refine ⟨before, item, after, hsplit, ?_, ?_, ?_⟩
    · rw [hrun, hbefore]
      rfl
    · rw [hrun, hrun, hitem, hitems]
    · rw [hrun, hrun, finish_scopes, finish_scopes, hitems, hbefore]
      exact hframes
  · rw [hitems] at h
    cases h

private theorem splitAt_finish (f : SyntaxFile) {root : NodeId} {ids : List NodeId}
    {u : Universe FrameTable} {r r' : Except BindFailure (List NodeId) × BindState FrameTable}
    (hend : BindM.EndAlike root.past Universe.root u (BindM.SameNodes root.past) r r')
    (hreachable : ∀ e, r.1 = .error (.error e) → e.problem.isReachable)
    (hpos : 0 < root.index) (hroot : root.index ≤ r.2.world.graph.size + 1)
    (hfirst : r'.2.world.graph.get? root = some (f.rootBlock ids r.2.world)) :
    SplitAt f root ids (f.finish ids r) (f.finish [] r') := by
  obtain ⟨r, a⟩ := r
  obtain ⟨r', b⟩ := r'
  obtain ⟨-, ⟨hgraph, htypes, hscopes, hfiles, -⟩, -, -, hresult⟩ := hend
  have hsize := (hgraph.size_past hroot).2
  have hnodes := hgraph.get?_past hpos hroot
  cases hresult with
  | @ok js js' h =>
    obtain ⟨-, rfl⟩ := h
    have hlast := hgraph.insert_fst (f.rootBlock (ids ++ js) a.world)
      (f.rootBlock (js.map root.past) b.world)
    have hvoid : f.rootBlock (js.map root.past) b.world =
        f.rootBlock (js.map root.past) a.world := by rw [rootBlock, htypes, rootBlock]
    refine ⟨rfl, by simp [finish], hfiles, htypes, hscopes, ?_, ?_, ?_, ?_⟩
    · simp only [finish, Arena.insert, Arena.size, Array.size_push] at hsize ⊢
      omega
    · intro id hid
      have hne : id ≠ (a.world.graph.insert (f.rootBlock (ids ++ js) a.world)).1 :=
        fun h => hid (congrArg Except.ok h.symm)
      have hne' : root.past id ≠
          (b.world.graph.insert (f.rootBlock (js.map root.past) b.world)).1 :=
        fun h => hne (root.past_injective (h.trans hlast))
      exact (Arena.get?_insert_of_ne _ _ hne').trans
        ((hnodes id).trans (congrArg _ (Arena.get?_insert_of_ne _ _ hne).symm))
    · exact (Arena.insert_extends _ _).kept hfirst
    · intro last hok
      obtain rfl : (a.world.graph.insert (f.rootBlock (ids ++ js) a.world)).1 = last :=
        Except.ok.inj hok
      refine ⟨congrArg Except.ok hlast, js, Arena.get?_insert_self _ _, ?_⟩
      rw [← hlast]
      exact (Arena.get?_insert_self _ _).trans (congrArg some hvoid)
  | fault e e' =>
    exact ⟨rfl, by simp [finish], hfiles, htypes, hscopes, hsize, fun id _ => hnodes id, hfirst,
      by simp [finish]⟩
  | error e =>
    exact ⟨rfl, fun _ => Iff.rfl, hfiles, htypes, hscopes, hsize, fun id _ => hnodes id, hfirst,
      by simp [finish]⟩
  | unreachable he =>
    have hyes := hreachable _ rfl
    rw [he] at hyes
    cases hyes

private theorem bindItems_ends {roots : List NodeId} (hs : s.world.Sound roots)
    (items : List Expr) : let r := (bindItems items).exec s
    s.world.Extends r.2.world ∧ r.2.world.Sound roots ∧
      (∀ ids, r.1 = .ok ids → ∀ id ∈ ids, r.2.world.graph.Issued id) ∧
      ∀ e, r.1 = .error (.error e) → e.problem.isReachable := by
  intro r
  have hleads : BindM.Leads roots False s.world (bindItems items) _ := bindItems_leads hs False.elim
  obtain ⟨hgrow, hsound, hresult⟩ := hleads s rfl
  refine ⟨hgrow, hsound, ?_, ?_⟩
  · intro ids hids
    rw [show ((bindItems items).exec s).1 = .ok ids from hids] at hresult
    exact hresult
  · intro e he
    rw [show ((bindItems items).exec s).1 = .error (.error e) from he] at hresult
    exact hresult.2

private theorem bind_second {roots : List NodeId} (hs : s.world.Sound roots) (f : SyntaxFile)
    {ids : List NodeId} (hfirst : (bindItems xs).exec s = (.ok ids, t)) (ys : List Expr) :
    let made := t.world.graph.insert (f.rootBlock ids t.world)
    SplitAt f made.1 ids ((f.withItems (xs ++ ys)).bind.exec s)
      ((f.withItems ys).bind.exec { t with world.graph := made.2 }) := by
  intro made
  obtain ⟨-, hsound, hids, -⟩ := bindItems_ends hs xs
  rw [hfirst] at hsound hids
  have hmade : Universe.Sound (made.1 :: roots) { t.world with graph := made.2 } :=
    hsound.makeRoot (hids ids rfl)
  have hwhole : (f.withItems (xs ++ ys)).bind.exec s = f.finish ids ((bindItems ys).exec t) := by
    rw [exec_bind]
    change finish _ [] ((bindItems (xs ++ ys)).exec s) = _
    rw [exec_bindItems_append hfirst]
    rcases (bindItems ys).exec t with ⟨_ | _, _⟩ <;> rfl
  rw [hwhole, exec_bind]
  have hend : BindM.EndAlike made.1.past Universe.root t.world (BindM.SameNodes made.1.past)
      ((bindItems ys).exec t) ((bindItems ys).exec { t with world.graph := made.2 }) :=
    bindItems_renames t _ hsound.linked (hsound.linked.renamed_past _) (.refl _)
  obtain ⟨hgrow, -, -, hreachable⟩ := bindItems_ends hsound ys
  obtain ⟨hgrow', -⟩ := bindItems_ends (s := { t with world.graph := made.2 }) hmade ys
  refine splitAt_finish f hend hreachable ?_ ?_ ?_
  · exact Nat.succ_pos _
  · exact Nat.succ_le_succ hgrow.graph.size_le
  · rw [rootBlock, TypeStore.primitive_kept hgrow.types]
    exact hgrow'.graph.kept (Arena.get?_insert_self _ _)

/-- Whether a file is bound at once or in two parts makes no difference but for the blocks. Both
ways succeed or fail together and with the same error. They end with the same types and, past the
block of the first part, with the same nodes one handle further, which the scopes name. The block at
the end lists the items of the second part only. A file that cannot be bound leaves the root scope
as the items before the bad one do. -/
theorem bind_split {s : BindState FrameTable} (hreached : s.world.Reached) (f : SyntaxFile)
    (xs ys : List Expr) :
    let whole := (f.withItems (xs ++ ys)).bind.exec s
    let first := (f.withItems xs).bind.exec s
    let second := (f.withItems ys).bind.exec first.2
    (whole.1.isOk ↔ first.1.isOk ∧ second.1.isOk) ∧
    (∀ e, first.1 = .error e → whole = first) ∧
    (∀ root, first.1 = .ok root → ∃ ids, SplitAt f root ids whole second) ∧
    (∀ e, whole.1 = .error e → ∃ before item after, xs ++ ys = before ++ item :: after ∧
      StopsAt f s before item whole) := by
  intro whole first second
  obtain ⟨roots, hs⟩ := hreached.sound
  have hstops (e : BindFailure) (he : whole.1 = .error e) :=
    bind_stops hs.linked hreached.rooted f he
  have hfirst : first = f.finish [] ((bindItems xs).exec s) := exec_bind _ _
  rcases hitems : (bindItems xs).exec s with ⟨e | ids, t⟩
  · rw [hitems] at hfirst
    have hsame : whole = first := by
      rw [hfirst, ← exec_bindItems_append_error hitems ys]
      exact exec_bind _ _
    have herror : first.1 = .error e := congrArg Prod.fst hfirst
    refine ⟨?_, fun _ _ => hsame, ?_, hstops⟩
    · rw [hsame, herror]
      simp [Except.isOk, Except.toBool]
    · intro root hroot
      cases herror.symm.trans hroot
  · rw [hitems] at hfirst
    let made := t.world.graph.insert (f.rootBlock ids t.world)
    have hok : first.1 = .ok made.1 := congrArg Prod.fst hfirst
    have hsecond : second = (f.withItems ys).bind.exec { t with world.graph := made.2 } :=
      congrArg (fun r => (f.withItems ys).bind.exec r.2) hfirst
    have hsplit : SplitAt f made.1 ids whole second := hsecond ▸ bind_second hs f hitems ys
    refine ⟨?_, ?_, ?_, hstops⟩
    · rw [hok, hsplit.isOk]
      simp [Except.isOk, Except.toBool]
    · intro e he
      cases hok.symm.trans he
    · intro root hroot
      obtain rfl := Except.ok.inj (hok.symm.trans hroot)
      exact ⟨ids, hsplit⟩

/-! ### Constants in two parts -/

namespace InParts

def source : SourceFile where
  id := 1
  path := "main.nkl"
  content := "one :: 1\nsame :: (x: int) -> int \x7b x \x7d\nthree :: missing\n"

def file : SyntaxFile := source.parse.file

def opening : List Expr := file.items.take 1

def rest (n : Nat) : List Expr := (file.items.drop 1).take n

def whole (n : Nat) (s : BindState FrameTable) :
    Except BindFailure NodeId × BindState FrameTable :=
  (file.withItems (opening ++ rest n)).bind.exec s

def first (s : BindState FrameTable) : Except BindFailure NodeId × BindState FrameTable :=
  (file.withItems opening).bind.exec s

def second (n : Nat) (s : BindState FrameTable) :
    Except BindFailure NodeId × BindState FrameTable :=
  (file.withItems (rest n)).bind.exec (first s).2

def fresh : BindState FrameTable := ⟨.ofFiles {}, {}, 0⟩

def used : BindState FrameTable := (whole 1 fresh).2

end InParts

/-- A file is bound once more, in a universe where most of it is bound, and in two parts. Both ways
stop at the last constant. -/
theorem bind_split_in_parts :
    InParts.used.world.Reached ∧ (InParts.first InParts.used).1 = .ok ⟨1, 18⟩ ∧
      (∃ ids, SplitAt InParts.file ⟨1, 18⟩ ids (InParts.whole 2 InParts.used)
        (InParts.second 2 InParts.used)) ∧
      ∃ before item after, InParts.opening ++ InParts.rest 2 = before ++ item :: after ∧
        StopsAt InParts.file InParts.used before item (InParts.whole 2 InParts.used) := by
  have hfresh : InParts.fresh.world.Reached := .fresh {}
  have hreached : InParts.used.world.Reached := hfresh.bound _
  have hfirst : (InParts.first InParts.used).1 = .ok ⟨1, 18⟩ :=
    Outcome.eq_ok_of_toOption (by decide +kernel)
  have hwhole : (InParts.whole 2 InParts.used).1.isOk = false := by decide +kernel
  obtain ⟨-, -, hsplit, hstops⟩ := bind_split hreached InParts.file InParts.opening (InParts.rest 2)
  refine ⟨hreached, hfirst, hsplit _ hfirst, ?_⟩
  cases hresult : (InParts.whole 2 InParts.used).1 with
  | error e => exact hstops e hresult
  | ok root => simp [hresult, Except.isOk, Except.toBool] at hwhole

/-- The two ways do not end with the same nodes: the last block of the whole file lists both
constants, and the last block of the second part only one. -/
theorem bind_second_lists_rest :
    let whole := InParts.whole 1 InParts.fresh
    let second := InParts.second 1 InParts.fresh
    let root : NodeId := ⟨1, 8⟩
    let last : NodeId := ⟨1, 15⟩
    (InParts.first InParts.fresh).1.toOption = some root ∧ whole.1.toOption = some last ∧
      second.1.toOption = some (root.past last) ∧
      whole.2.world.graph.get? last = some ⟨⟨1, 0, 0⟩, .block [⟨1, 7⟩, ⟨1, 14⟩] ⟨1, 2⟩⟩ ∧
      second.2.world.graph.get? (root.past last) = some ⟨⟨1, 0, 0⟩, .block [⟨1, 15⟩] ⟨1, 2⟩⟩ ∧
      second.2.world.graph.get? (root.past last) ≠
        (whole.2.world.graph.get? last).map (Node.rename root.past) := by
  decide +kernel

end SyntaxFile

end Keywordless
