import Keywordless.Binding.Scope
import Mathlib

/-!
# Frame tables

What a scope of a frame table sees, which entries its frames hold, and what opening a scope and
binding a name change.
-/

namespace Keywordless

theorem Names.lookup_bind (names : Names) (name other : Bytes) (id : NodeId) :
    (names.bind name id).lookup other = if other = name then some id else names.lookup other := by
  have hlookup (key : Bytes) (held : NodeId) (rest : Names) :
      List.lookup other ((key, held) :: rest) =
        if other = key then some held else rest.lookup other := by
    by_cases h : other = key
    · simp [h]
    · simp [List.lookup_cons, h, beq_false_of_ne h]
  induction names with
  | nil => exact hlookup name id []
  | cons first rest ih =>
    obtain ⟨key, old⟩ := first
    simp only [Names.bind]
    split
    · next hkey =>
      subst hkey
      rw [hlookup, hlookup]
      split <;> rfl
    · next hkey =>
      rw [hlookup, hlookup, ih]
      by_cases h : other = name
      · subst h
        simp [Ne.symm hkey]
      · simp [h]

private theorem Names.mem_bind {names : Names} {name : Bytes} {id : NodeId} {entry : Bytes × NodeId}
    (h : entry ∈ names.bind name id) : entry ∈ names ∨ entry = (name, id) := by
  induction names with
  | nil =>
    obtain rfl := List.mem_singleton.mp h
    exact .inr rfl
  | cons first rest ih =>
    simp only [Names.bind] at h
    split at h
    · obtain rfl | h := List.mem_cons.mp h
      · exact .inr rfl
      · exact .inl (List.mem_cons_of_mem _ h)
    · obtain rfl | h := List.mem_cons.mp h
      · exact .inl List.mem_cons_self
      · exact (ih h).imp_left (List.mem_cons_of_mem _)

namespace FrameTable

/-! ### What a scope sees -/

def Ordered (t : FrameTable) : Prop :=
  ∀ (i : Nat) (frame : Frame) (parent : Nat),
    t.frames[i]? = some frame → frame.parent = some parent → parent < i

private theorem lookupWithin_eq {t : FrameTable} (h : t.Ordered) {name : Bytes} {m n : Nat}
    {scope : Nat} (hm : scope < m) (hn : scope < n) :
    t.lookupWithin name m scope = t.lookupWithin name n scope := by
  induction m generalizing n scope with
  | zero => omega
  | succ m ih =>
    obtain _ | n := n
    · omega
    · simp only [lookupWithin]
      cases hframe : t.frames[scope]? with
      | none => rfl
      | some frame =>
        simp only [Option.bind_eq_bind, Option.bind_some]
        cases frame.names.lookup name with
        | some id => rfl
        | none =>
          cases hparent : frame.parent with
          | none => rfl
          | some parent =>
            have holder := h _ _ _ hframe hparent
            exact ih (by omega) (by omega)

/-- A scope sees its own names and those that its parent sees. -/
theorem lookup_eq {t : FrameTable} (h : t.Ordered) {scope : Nat} {frame : Frame}
    (hframe : t.frames[scope]? = some frame) (name : Bytes) :
    t.lookup scope name =
      (frame.names.lookup name).or (frame.parent.bind fun parent => t.lookup parent name) := by
  rw [lookup, lookupWithin, hframe]
  simp only [Option.bind_eq_bind, Option.bind_some]
  cases frame.names.lookup name with
  | some id => rfl
  | none =>
    cases hparent : frame.parent with
    | none => rfl
    | some parent =>
      have holder := h _ _ _ hframe hparent
      exact lookupWithin_eq h holder (Nat.lt_succ_self parent)

/-- What a scope sees depends on the frames up to it. -/
theorem lookup_congr {t t' : FrameTable} (h : t.Ordered) (h' : t'.Ordered) {scope : Nat}
    (hsame : ∀ i ≤ scope, t.frames[i]? = t'.frames[i]?) (name : Bytes) :
    t.lookup scope name = t'.lookup scope name := by
  induction scope using Nat.strongRecOn with
  | ind scope ih =>
    cases hframe : t.frames[scope]? with
    | none => simp [lookup, lookupWithin, hframe, ← hsame scope le_rfl]
    | some frame =>
      rw [lookup_eq h hframe, lookup_eq h' ((hsame scope le_rfl).symm.trans hframe)]
      cases hparent : frame.parent with
      | none => rfl
      | some parent =>
        have holder := h _ _ _ hframe hparent
        simp only [Option.bind_some]
        rw [ih parent holder fun i hi => hsame i (by omega)]

theorem ordered_root : ({} : FrameTable).Ordered := by
  intro i frame parent hframe hparent
  obtain ⟨hi, rfl⟩ := Array.getElem?_eq_some_iff.mp hframe
  obtain rfl : i = 0 := Nat.lt_one_iff.mp hi
  cases hparent

theorem Ordered.child {t : FrameTable} (h : t.Ordered) {scope : Nat}
    (hscope : scope < t.frames.size) : (t.child scope).2.Ordered := by
  intro i frame parent hframe hparent
  simp only [FrameTable.child, Array.getElem?_push] at hframe
  split at hframe
  · next hi =>
    obtain rfl := Option.some.inj hframe
    obtain rfl := Option.some.inj hparent
    exact hi ▸ hscope
  · exact h _ _ _ hframe hparent

theorem Ordered.insert {t : FrameTable} (h : t.Ordered) (scope : ScopeId) (name : Bytes)
    (id : NodeId) : (t.insert scope name id).Ordered := by
  intro i frame parent hframe hparent
  simp only [FrameTable.insert, Array.getElem?_modify] at hframe
  split at hframe
  · obtain ⟨old, hold, rfl⟩ := Option.map_eq_some_iff.mp hframe
    exact h _ _ _ hold hparent
  · exact h _ _ _ hframe hparent

theorem child_getElem? (t : FrameTable) (scope : ScopeId) {i : Nat} (hi : i < t.frames.size) :
    (t.child scope).2.frames[i]? = t.frames[i]? := by
  simp [child, Array.getElem?_push, hi.ne]

theorem insert_getElem? (t : FrameTable) {scope i : Nat} (hi : scope ≠ i) (name : Bytes)
    (id : NodeId) : (t.insert scope name id).frames[i]? = t.frames[i]? := by
  simp [insert, Array.getElem?_modify, hi]

theorem lookup_child {t : FrameTable} (h : t.Ordered) {scope : Nat} (hscope : scope < t.frames.size)
    (name : Bytes) : (t.child scope).2.lookup (t.child scope).1 name = t.lookup scope name := by
  have hordered := h.child hscope
  have hframe : (t.child scope).2.frames[(t.child scope).1]? = some { parent := some scope } := by
    simp [child]
  rw [lookup_eq hordered hframe]
  simp only [List.lookup_nil, Option.none_or, Option.bind_some]
  apply lookup_congr hordered h
  intro i hi
  exact t.child_getElem? scope (by omega)

/-- A scope sees the name that was bound in it last. -/
theorem lookup_insert {t : FrameTable} (h : t.Ordered) {scope : Nat}
    (hscope : scope < t.frames.size) (name other : Bytes) (id : NodeId) :
    (t.insert scope name id).lookup scope other =
      if other = name then some id else t.lookup scope other := by
  obtain ⟨frame, hframe⟩ : ∃ frame, t.frames[scope]? = some frame :=
    ⟨_, Array.getElem?_eq_getElem hscope⟩
  have hnew : (t.insert scope name id).frames[scope]? =
      some { frame with names := frame.names.bind name id } := by
    simp [insert, Array.getElem?_modify, hframe]
  rw [lookup_eq (h.insert scope name id) hnew, lookup_eq h hframe]
  simp only [Names.lookup_bind]
  split
  · rfl
  · cases hparent : frame.parent with
    | none => rfl
    | some parent =>
      have holder := h _ _ _ hframe hparent
      have hbefore (j : Nat) (hj : j ≤ parent) :
          (t.insert scope name id).frames[j]? = t.frames[j]? :=
        t.insert_getElem? (by omega) name id
      simp only [Option.bind_some]
      rw [lookup_congr (h.insert scope name id) h hbefore]

/-! ### The entries of frames -/

section

variable {t : FrameTable} {scope : ScopeId} {name : Bytes} {id : NodeId} {frame : Frame}
  {entry : Bytes × NodeId}

theorem mem_child (hframe : frame ∈ (t.child scope).2.frames) (hentry : entry ∈ frame.names) :
    ∃ old ∈ t.frames, entry ∈ old.names := by
  obtain hframe | rfl := Array.mem_push.mp hframe
  · exact ⟨frame, hframe, hentry⟩
  · simp at hentry

theorem mem_insert (hframe : frame ∈ (t.insert scope name id).frames)
    (hentry : entry ∈ frame.names) :
    entry = (name, id) ∨ ∃ old ∈ t.frames, entry ∈ old.names := by
  obtain ⟨i, hi, rfl⟩ := Array.mem_iff_getElem.mp hframe
  change i < (t.frames.modify scope _).size at hi
  change entry ∈ ((t.frames.modify scope _)[i]).names at hentry
  rw [Array.getElem_modify] at hentry
  have hi' : i < t.frames.size := by simpa using hi
  have hold : t.frames[i] ∈ t.frames := Array.getElem_mem hi'
  split at hentry
  · obtain hentry | rfl := Names.mem_bind hentry
    · exact .inr ⟨_, hold, hentry⟩
    · exact .inl rfl
  · exact .inr ⟨_, hold, hentry⟩

private theorem mem_of_lookupWithin {steps : Nat}
    (h : t.lookupWithin name steps scope = some id) :
    ∃ frame ∈ t.frames, (name, id) ∈ frame.names := by
  induction steps generalizing scope with
  | zero => cases h
  | succ steps ih =>
    obtain ⟨frame, hframe, h⟩ := Option.bind_eq_some_iff.mp h
    cases hfound : frame.names.lookup name with
    | some found =>
      rw [hfound] at h
      obtain rfl := Option.some.inj h
      obtain ⟨before, after, hsplit, -⟩ := List.lookup_eq_some_iff.mp hfound
      exact ⟨frame, Array.mem_of_getElem? hframe, by simp [hsplit]⟩
    | none =>
      rw [hfound] at h
      obtain ⟨parent, -, h⟩ := Option.bind_eq_some_iff.mp h
      exact ih h

theorem mem_of_lookup (h : t.lookup scope name = some id) :
    ∃ frame ∈ t.frames, (name, id) ∈ frame.names :=
  mem_of_lookupWithin h

end

/-! ### Untouched frames -/

variable {t t' : FrameTable} {scope : ScopeId}

/-- Frames other than the one of the scope stay as they are. -/
structure Keeps (scope : ScopeId) (t t' : FrameTable) : Prop where
  size : t.frames.size ≤ t'.frames.size
  frames : ∀ i < t.frames.size, i ≠ scope → t'.frames[i]? = t.frames[i]?

theorem Keeps.refl (scope : ScopeId) (t : FrameTable) : Keeps scope t t :=
  ⟨le_rfl, fun _ _ _ => rfl⟩

theorem Keeps.trans {t'' : FrameTable} (h : Keeps scope t t') (h' : Keeps scope t' t'') :
    Keeps scope t t'' :=
  ⟨h.size.trans h'.size, fun i hi hne =>
    (h'.frames i (hi.trans_le h.size) hne).trans (h.frames i hi hne)⟩

theorem Keeps.insert (h : Keeps scope t t') (name : Bytes) (id : NodeId) :
    Keeps scope t (t'.insert scope name id) := by
  refine ⟨by simpa [FrameTable.insert] using h.size, ?_⟩
  intro i hi hne
  rw [insert_getElem? t' (Ne.symm hne)]
  exact h.frames i hi hne

theorem Keeps.left (h : Keeps (t.child scope).1 (t.child scope).2 t') :
    ∀ i < t.frames.size, t'.frames[i]? = t.frames[i]? := by
  intro i hi
  rw [← t.child_getElem? scope hi]
  apply h.frames
  · simpa [FrameTable.child] using Nat.lt_succ_of_lt hi
  · exact hi.ne

theorem Keeps.outer {other : ScopeId} (h : Keeps (t.child scope).1 (t.child scope).2 t') :
    Keeps other t t' := by
  refine ⟨?_, fun i hi _ => h.left i hi⟩
  have hsize := h.size
  simp only [FrameTable.child, Array.size_push] at hsize
  omega

end FrameTable

end Keywordless
