import Keywordless.Arena
import Mathlib

/-!
# Arenas grow

What an arena issued stays: inserting a value gives a handle that no one had before and changes
nothing else.
-/

namespace Keywordless

namespace Arena

variable {κ α : Type}

def Issued (a : Arena κ α) (id : Handle κ) : Prop := ∃ value, a.get? id = some value

structure Extends (a b : Arena κ α) : Prop where
  tag : b.tag = a.tag
  kept : ∀ {id value}, a.get? id = some value → b.get? id = some value

theorem Extends.refl (a : Arena κ α) : a.Extends a := ⟨rfl, fun h => h⟩

theorem Extends.trans {a b c : Arena κ α} (hab : a.Extends b) (hbc : b.Extends c) :
    a.Extends c :=
  ⟨hbc.tag.trans hab.tag, fun h => hbc.kept (hab.kept h)⟩

theorem Extends.issued {a b : Arena κ α} (hab : a.Extends b) {id : Handle κ}
    (h : a.Issued id) : b.Issued id := by
  obtain ⟨value, hv⟩ := h
  exact ⟨value, hab.kept hv⟩

theorem get?_eq_some_iff (a : Arena κ α) (id : Handle κ) (value : α) :
    a.get? id = some value ↔
      id.arena = a.tag ∧ 0 < id.index ∧ a.items[id.index - 1]? = some value := by
  unfold get?
  by_cases hz : id.index = 0
  · simp [hz]
  · by_cases ht : id.arena = a.tag
    · simp [hz, ht, Nat.pos_of_ne_zero hz]
    · simp [hz, ht]

theorem issued_iff (a : Arena κ α) (id : Handle κ) :
    a.Issued id ↔ id.arena = a.tag ∧ 0 < id.index ∧ id.index ≤ a.size := by
  constructor
  · rintro ⟨value, hv⟩
    obtain ⟨ht, hp, hg⟩ := (get?_eq_some_iff a id value).mp hv
    have hlt : id.index - 1 < a.items.size := (Array.getElem?_eq_some_iff.mp hg).choose
    exact ⟨ht, hp, by unfold size; omega⟩
  · rintro ⟨ht, hp, hle⟩
    have hlt : id.index - 1 < a.items.size := by unfold size at hle; omega
    exact ⟨a.items[id.index - 1], (get?_eq_some_iff _ _ _).mpr
      ⟨ht, hp, Array.getElem?_eq_getElem hlt⟩⟩

theorem get?_insert_self (a : Arena κ α) (value : α) :
    (a.insert value).2.get? (a.insert value).1 = some value := by
  simp [get?, insert]

theorem get?_insert_of_ne (a : Arena κ α) (value : α) {id : Handle κ}
    (h : id ≠ (a.insert value).1) : (a.insert value).2.get? id = a.get? id := by
  obtain ⟨arena, index⟩ := id
  by_cases hz : index = 0
  · simp [get?, hz]
  by_cases ht : arena = a.tag
  · subst ht
    have hne : index ≠ a.items.size + 1 := fun he => h (by simp [insert, he])
    have hpush : (a.items.push value)[index - 1]? = a.items[index - 1]? := by
      rw [Array.getElem?_push, if_neg (by omega)]
    simp [get?, insert, hz, hpush]
  · simp [get?, insert, ht]

theorem insert_not_issued (a : Arena κ α) (value : α) : ¬ a.Issued (a.insert value).1 := by
  intro h
  have hle := ((issued_iff a _).mp h).2.2
  simp [insert, size] at hle

theorem insert_extends (a : Arena κ α) (value : α) : a.Extends (a.insert value).2 := by
  refine ⟨rfl, ?_⟩
  intro id old hold
  have hne : id ≠ (a.insert value).1 := by
    rintro rfl
    exact insert_not_issued a value ⟨old, hold⟩
  rw [get?_insert_of_ne a value hne]
  exact hold

theorem get?_insert_cases {a : Arena κ α} {value : α} {id : Handle κ} {found : α}
    (h : (a.insert value).2.get? id = some found) :
    (id = (a.insert value).1 ∧ found = value) ∨ a.get? id = some found := by
  by_cases he : id = (a.insert value).1
  · subst he
    rw [get?_insert_self] at h
    exact .inl ⟨rfl, (Option.some.inj h).symm⟩
  · rw [get?_insert_of_ne a value he] at h
    exact .inr h

/-- Handles are positions, so that the newest one is the largest. -/
theorem issued_lt_insert {a : Arena κ α} {id : Handle κ} (h : a.Issued id) (value : α) :
    id.index < (a.insert value).1.index := by
  have hle := ((issued_iff a id).mp h).2.2
  simp only [insert, size] at hle ⊢
  omega

theorem Extends.size_le {a b : Arena κ α} (h : a.Extends b) : a.size ≤ b.size := by
  rcases Nat.eq_zero_or_pos a.size with hzero | hpos
  · omega
  · have hlast : a.Issued ⟨a.tag, a.size⟩ := (issued_iff a _).mpr ⟨rfl, hpos, le_rfl⟩
    exact ((issued_iff b _).mp (h.issued hlast)).2.2

theorem get_eq_ok_iff (a : Arena κ α) (id : Handle κ) (value : α) :
    a.get id = .ok value ↔ a.get? id = some value := by
  unfold get
  cases a.get? id <;> simp

theorem get_eq_error_iff (a : Arena κ α) (id : Handle κ) (f : Fault) :
    a.get id = .error f ↔ a.get? id = none ∧ a.refusal id = f := by
  unfold get
  cases a.get? id <;> simp

end Arena

end Keywordless
