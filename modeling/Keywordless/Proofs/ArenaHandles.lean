import Keywordless.Proofs.Arena
import Keywordless.Proofs.Outcome

/-!
# Handles over many arenas

Arenas are opened, filled, asked for pointers and written through these in any order. The record of
what was asked and answered tells what every handle stands for: a handle finds a value in an arena
exactly when that arena issued it, and then the value that was stored under it last. A handle that
an arena did not issue is refused there and changes nothing.

An arena that is full moves to another block of memory. A pointer from before the move still leads
to the old block, where what is written changes no arena.
-/

namespace Keywordless

def Handle.same {κ : Type} (id other : Handle κ) : Bool :=
  id.arena == other.arena && id.index == other.index

private theorem Handle.same_iff {κ : Type} {id other : Handle κ} :
    id.same other = true ↔ id = other := by
  cases id
  cases other
  simp [same]

inductive ArenaCall (α : Type) where
  | fresh (room : Nat)
  | insert (place : Nat) (value : α)
  | find (place : Nat) (id : Handle α)
  | reach (place : Nat) (id : Handle α)
  | load (q : Pointer)
  | store (q : Pointer) (value : α)

inductive ArenaAnswer (α : Type) where
  | opened (place : Nat)
  | issued (id : Handle α)
  | found (q : Option Pointer)
  | reached (q : Pointer)
  | loaded (value : α)
  | stored
  | refused (fault : Fault)

namespace ArenaPool

variable {α : Type}

/-- The answer to a call and the pool after it. A call that is refused changes nothing. -/
def answer (p : ArenaPool α) : ArenaCall α → ArenaAnswer α × ArenaPool α
  | .fresh room => (.opened (p.fresh room).1, (p.fresh room).2)
  | .insert place value =>
    match p.insert place value with
    | .ok (id, after) => (.issued id, after)
    | .error fault => (.refused fault, p)
  | .find place id =>
    match p.find place id with
    | .ok q => (.found q, p)
    | .error fault => (.refused fault, p)
  | .reach place id =>
    match p.reach place id with
    | .ok q => (.reached q, p)
    | .error fault => (.refused fault, p)
  | .load q =>
    match p.load q with
    | .ok value => (.loaded value, p)
    | .error fault => (.refused fault, p)
  | .store q value =>
    match p.store q value with
    | .ok after => (.stored, after)
    | .error fault => (.refused fault, p)

def view (p : ArenaPool α) (place : Nat) : Option (Arena α α) := p.slots[place]?.map p.held

def value? (p : ArenaPool α) (place : Nat) (id : Handle α) : Option α :=
  (p.view place).bind (·.get? id)

def pointer? (p : ArenaPool α) (place : Nat) (id : Handle α) : Option Pointer :=
  p.slots[place]?.bind fun s => ((p.held s).get? id).map fun _ => ⟨s.block, id.index - 1⟩

def HasRoom (p : ArenaPool α) (place : Nat) : Prop :=
  ∃ s, p.slots[place]? = some s ∧ (p.held s).size < s.room

end ArenaPool

/-- A call, the pool before it and the answer. -/
structure ArenaStep (α : Type) where
  before : ArenaPool α
  call : ArenaCall α
  answer : ArenaAnswer α

abbrev ArenaLog (α : Type) := List (ArenaStep α)

def ArenaPool.run {α : Type} (p : ArenaPool α) : List (ArenaCall α) → ArenaLog α × ArenaPool α
  | [] => ([], p)
  | call :: calls =>
    let rest := (p.answer call).2.run calls
    (⟨p, call, (p.answer call).1⟩ :: rest.1, rest.2)

namespace ArenaStep

variable {α : Type}

def Opens (step : ArenaStep α) (place room : Nat) : Prop :=
  step.call = .fresh room ∧ step.answer = .opened place

def Issues (step : ArenaStep α) (place : Nat) (value : α) (id : Handle α) : Prop :=
  step.call = .insert place value ∧ step.answer = .issued id

def Gives (step : ArenaStep α) (place : Nat) (id : Handle α) (q : Pointer) : Prop :=
  step.call = .find place id ∧ step.answer = .found (some q) ∨
    step.call = .reach place id ∧ step.answer = .reached q

def issued? (step : ArenaStep α) : Option (Handle α) :=
  match step.call, step.answer with
  | .insert _ _, .issued id => some id
  | _, _ => none

/-- The value that is stored here under a handle of the arena at a place, if any. A write through a
pointer counts for the handle that has this pointer at the time. -/
def stored? (step : ArenaStep α) (place : Nat) (id : Handle α) : Option α :=
  match step.call, step.answer with
  | .insert there value, .issued new => if place = there ∧ id.same new then some value else none
  | .store q value, .stored => if step.before.pointer? place id = some q then some value else none
  | _, _ => none

end ArenaStep

namespace ArenaLog

variable {α : Type}

def handles (log : ArenaLog α) : List (Handle α) := log.filterMap ArenaStep.issued?

/-- The value that was stored last under a handle of the arena at a place. -/
def lastStored (log : ArenaLog α) (place : Nat) (id : Handle α) : Option α :=
  (log.filterMap (·.stored? place id)).getLast?

def Opened (log : ArenaLog α) (place room : Nat) : Prop := ∃ step ∈ log, step.Opens place room

def IssuedBy (log : ArenaLog α) (place : Nat) (id : Handle α) : Prop :=
  ∃ step ∈ log, ∃ value, step.Issues place value id

private theorem handles_concat (log : ArenaLog α) (step : ArenaStep α) :
    handles (log ++ [step]) = log.handles ++ step.issued?.toList := by
  rw [handles, List.filterMap_append]
  cases hissued : step.issued? <;> simp [hissued, handles]

private theorem issuedBy_concat (log : ArenaLog α) (step : ArenaStep α) (place : Nat)
    (id : Handle α) : IssuedBy (log ++ [step]) place id ↔
      log.IssuedBy place id ∨ ∃ value, step.Issues place value id := by
  simp [IssuedBy, or_and_right, exists_or]

private theorem lastStored_concat (log : ArenaLog α) (step : ArenaStep α) (place : Nat)
    (id : Handle α) : lastStored (log ++ [step]) place id =
      (step.stored? place id).or (log.lastStored place id) := by
  rw [lastStored, List.filterMap_append, List.getLast?_append]
  cases hstored : step.stored? place id <;> simp [hstored, lastStored]

end ArenaLog

namespace Arena

variable {κ α : Type} {a : Arena κ α} {id : Handle κ} {value : α}

private theorem get?_insert (a : Arena κ α) (value : α) (id : Handle κ) :
    (a.insert value).2.get? id =
      if id.same (a.insert value).1 then some value else a.get? id := by
  split
  · next hsame => rw [Handle.same_iff.mp hsame, get?_insert_self]
  · next hsame => exact get?_insert_of_ne a value (mt Handle.same_iff.mpr hsame)

private theorem get?_setIfInBounds (a : Arena κ α) (offset : Nat) (value : α) (id : Handle κ) :
    get? ⟨a.tag, a.items.setIfInBounds offset value⟩ id =
      (a.get? id).map fun old => if id.index - 1 = offset then value else old := by
  unfold get?
  split
  · rfl
  · rw [Array.getElem?_setIfInBounds]
    by_cases heq : id.index - 1 = offset
    · subst heq
      by_cases hlt : id.index - 1 < a.items.size <;> simp [hlt]
    · simp [heq, Ne.symm heq]

end Arena

namespace ArenaPool

variable {α : Type} {p after : ArenaPool α} {place : Nat} {id : Handle α} {value : α} {q : Pointer}

/-- Each arena has a tag and a block of its own. -/
structure Sound (p : ArenaPool α) : Prop where
  tag : ∀ {place : Nat} {s : ArenaSlot}, p.slots[place]? = some s → s.tag = place + 1
  block : ∀ {place : Nat} {s : ArenaSlot}, p.slots[place]? = some s → s.block < p.blocks.size
  apart : ∀ {i j : Nat} {s t : ArenaSlot},
    p.slots[i]? = some s → p.slots[j]? = some t → s.block = t.block → i = j

private theorem slot_eq_ok {s : ArenaSlot} : p.slot place = .ok s ↔ p.slots[place]? = some s := by
  unfold slot
  cases p.slots[place]? <;> simp

private theorem view_of_slot {s : ArenaSlot} (h : p.slots[place]? = some s) :
    p.view place = some (p.held s) := by
  rw [view, h, Option.map_some]

private theorem value?_of_slot {s : ArenaSlot} (h : p.slots[place]? = some s) (id : Handle α) :
    p.value? place id = (p.held s).get? id := by
  rw [value?, view_of_slot h, Option.bind_some]

private theorem pointer?_of_slot {s : ArenaSlot} (h : p.slots[place]? = some s) (id : Handle α) :
    p.pointer? place id = (p.value? place id).map fun _ => ⟨s.block, id.index - 1⟩ := by
  rw [value?_of_slot h, pointer?, h, Option.bind_some]

private theorem held_congr {s : ArenaSlot} (h : after.blocks[s.block]? = p.blocks[s.block]?) :
    after.held s = p.held s := by
  simp only [held, Array.getD_eq_getD_getElem?, h]

section Congr

variable {there : Nat} (hslots : after.slots[there]? = p.slots[there]?)
  (hheld : ∀ {t : ArenaSlot}, p.slots[there]? = some t → after.held t = p.held t)
include hslots hheld

private theorem value?_congr (id : Handle α) : after.value? there id = p.value? there id := by
  unfold value? view
  rw [hslots]
  cases ht : p.slots[there]? with
  | none => rfl
  | some t => rw [Option.map_some, Option.map_some, hheld ht]

private theorem pointer?_congr (id : Handle α) : after.pointer? there id = p.pointer? there id := by
  unfold pointer?
  rw [hslots]
  cases ht : p.slots[there]? with
  | none => rfl
  | some t => rw [Option.bind_some, Option.bind_some, hheld ht]

end Congr

private theorem Sound.arena_of_value? (h : p.Sound) (hfound : p.value? place id = some value) :
    id.arena = place + 1 := by
  obtain ⟨a, ha, hvalue⟩ := Option.bind_eq_some_iff.mp hfound
  obtain ⟨s, hs, rfl⟩ := Option.map_eq_some_iff.mp ha
  rw [((p.held s).get?_eq_some_iff id value).mp hvalue |>.1, ← h.tag hs]
  rfl

private theorem Sound.load_of_pointer? (h : p.Sound) (hq : p.pointer? place id = some q)
    (hvalue : p.value? place id = some value) : p.load q = .ok value := by
  obtain ⟨s, hs, hq⟩ := Option.bind_eq_some_iff.mp hq
  obtain ⟨_, -, rfl⟩ := Option.map_eq_some_iff.mp hq
  rw [value?_of_slot hs] at hvalue
  obtain ⟨-, -, hitem⟩ := ((p.held s).get?_eq_some_iff id value).mp hvalue
  have hblock : p.blocks[s.block]? = some (p.held s).items := by
    rw [Array.getElem?_eq_getElem (h.block hs)]
    simp [held, Array.getD_eq_getD_getElem?, h.block hs]
  rw [load, hblock, Option.bind_some, hitem]

/-! ### Opening an arena -/

private theorem Sound.put (h : p.Sound) (s : ArenaSlot) {slots : Array ArenaSlot} (items : Array α)
    (htag : s.tag = place + 1) (hblock : s.block = p.blocks.size)
    (hslots : ∀ {there : Nat} {t : ArenaSlot}, slots[there]? = some t →
      there = place ∧ t = s ∨ p.slots[there]? = some t) :
    Sound { p with blocks := p.blocks.push items, slots } := by
  refine ⟨fun ht => ?_, fun ht => ?_, fun ht hu heq => ?_⟩
  · rcases hslots ht with ⟨rfl, rfl⟩ | ht
    · exact htag
    · exact h.tag ht
  · rw [Array.size_push]
    rcases hslots ht with ⟨-, rfl⟩ | ht
    · exact hblock.trans_lt (Nat.lt_succ_self _)
    · exact Nat.lt_succ_of_lt (h.block ht)
  · rcases hslots ht with ⟨rfl, rfl⟩ | ht <;> rcases hslots hu with ⟨rfl, rfl⟩ | hu
    · rfl
    · exact absurd (heq.symm.trans hblock) (Nat.ne_of_lt (h.block hu))
    · exact absurd (heq.trans hblock) (Nat.ne_of_lt (h.block ht))
    · exact h.apart ht hu heq

private theorem slots_fresh (p : ArenaPool α) (room : Nat) :
    (p.fresh room).2.slots = p.slots.push ⟨p.slots.size + 1, p.blocks.size, room⟩ := rfl

private theorem Sound.fresh (h : p.Sound) (room : Nat) : (p.fresh room).2.Sound := by
  refine h.put ⟨p.slots.size + 1, p.blocks.size, room⟩ #[] rfl rfl fun hs => ?_
  rw [Array.getElem?_push] at hs
  split at hs
  · next heq => exact .inl ⟨heq, (Option.some.inj hs).symm⟩
  · exact .inr hs

private theorem held_fresh (h : p.Sound) (room : Nat) {s : ArenaSlot}
    (hs : p.slots[place]? = some s) : (p.fresh room).2.held s = p.held s := by
  apply held_congr
  rw [ArenaPool.fresh, Array.getElem?_push, if_neg (Nat.ne_of_lt (h.block hs))]

private theorem held_fresh_new (p : ArenaPool α) (room : Nat) :
    (p.fresh room).2.held ⟨p.slots.size + 1, p.blocks.size, room⟩ = ⟨p.slots.size + 1, #[]⟩ := by
  simp [held, ArenaPool.fresh]

/-! ### Storing a value -/

private theorem insert_cases (h : p.insert place value = .ok (id, after)) :
    ∃ s, p.slots[place]? = some s ∧ id = ((p.held s).insert value).1 ∧
      ((p.held s).size < s.room ∧ after = { p with
          blocks := p.blocks.setIfInBounds s.block ((p.held s).insert value).2.items } ∨
        s.room ≤ (p.held s).size ∧ ∃ room, (p.held s).size < room ∧ after = { p with
          blocks := p.blocks.push ((p.held s).insert value).2.items
          slots := p.slots.setIfInBounds place { s with block := p.blocks.size, room } }) := by
  unfold insert at h
  obtain ⟨s, hs, h⟩ := Outcome.bind_eq_ok.mp h
  have hsize : ((p.held s).insert value).2.size = (p.held s).size + 1 := by
    simp [Arena.insert, Arena.size]
  simp only at h
  refine ⟨s, slot_eq_ok.mp hs, ?_⟩
  split at h
  · next hroom =>
    obtain ⟨rfl, rfl⟩ := Prod.mk.inj (Except.ok.inj h)
    exact ⟨rfl, .inl ⟨by omega, rfl⟩⟩
  · next hroom =>
    obtain ⟨rfl, rfl⟩ := Prod.mk.inj (Except.ok.inj h)
    exact ⟨rfl, .inr ⟨by omega, _, by omega, rfl⟩⟩

/-- What an insert leaves: the arena with its value more and every other arena as it was, where it
was. -/
structure Inserted (p : ArenaPool α) (place : Nat) (s : ArenaSlot) (value : α)
    (after : ArenaPool α) : Prop where
  sound : after.Sound
  own : ∃ t, after.slots[place]? = some t ∧ after.held t = ((p.held s).insert value).2 ∧
    s.room ≤ t.room ∧ ((p.held s).size < s.room → t.block = s.block)
  others : ∀ there : Nat, there ≠ place → after.slots[there]? = p.slots[there]?
  held : ∀ {there : Nat} {t : ArenaSlot}, there ≠ place → p.slots[there]? = some t →
    after.held t = p.held t

private theorem Sound.insert (h : p.Sound) (hinsert : p.insert place value = .ok (id, after)) :
    ∃ s, p.slots[place]? = some s ∧ id = ((p.held s).insert value).1 ∧
      Inserted p place s value after := by
  obtain ⟨s, hs, hid, hafter⟩ := insert_cases hinsert
  have hlt : place < p.slots.size := (Array.getElem?_eq_some_iff.mp hs).choose
  have hother {there : Nat} {t : ArenaSlot} (hne : there ≠ place)
      (ht : p.slots[there]? = some t) : t.block ≠ s.block := fun heq => hne (h.apart ht hs heq)
  refine ⟨s, hs, hid, ?_⟩
  rcases hafter with ⟨hroom, rfl⟩ | ⟨hfull, room, hroom, rfl⟩
  · have hheld : held { p with
        blocks := p.blocks.setIfInBounds s.block ((p.held s).insert value).2.items } s =
        ((p.held s).insert value).2 := by
      simp [held, Array.getD_eq_getD_getElem?, h.block hs, Arena.insert]
    refine ⟨⟨h.tag, fun ht => ?_, h.apart⟩, ⟨s, hs, hheld, le_rfl, fun _ => rfl⟩, fun _ _ => rfl,
      fun hne ht => held_congr ?_⟩
    · simpa using h.block ht
    · exact Array.getElem?_setIfInBounds_ne (Ne.symm (hother hne ht))
  · have htag := h.tag hs
    refine ⟨h.put { s with block := p.blocks.size, room } _ htag rfl fun ht => ?_,
      ⟨{ s with block := p.blocks.size, room }, ?_, ?_, ?_, ?_⟩, fun there hne => ?_,
      fun hne ht => held_congr ?_⟩
    · rw [Array.getElem?_setIfInBounds] at ht
      split at ht
      · next heq => exact .inl ⟨heq.symm, (Option.some.inj ht).symm⟩
      · exact .inr ht
    · exact Array.getElem?_setIfInBounds_self_of_lt hlt
    · simp [held, Arena.insert]
    · exact hfull.trans hroom.le
    · exact fun hlow => absurd hlow (Nat.not_lt.mpr hfull)
    · exact Array.getElem?_setIfInBounds_ne (Ne.symm hne)
    · rw [Array.getElem?_push, if_neg (Nat.ne_of_lt (h.block ht))]

namespace Inserted

variable {s : ArenaSlot} (h : Inserted p place s value after) (hs : p.slots[place]? = some s)
include h hs

private theorem value? (there : Nat) (other : Handle α) :
    after.value? there other =
      (if there = place ∧ other.same ((p.held s).insert value).1 then some value else none).or
        (p.value? there other) := by
  by_cases heq : there = place
  · subst heq
    obtain ⟨t, ht, hheld, -, -⟩ := h.own
    rw [value?_of_slot ht, value?_of_slot hs, hheld, Arena.get?_insert]
    by_cases hsame : other.same ((p.held s).insert value).1 <;> simp [hsame]
  · rw [value?_congr (h.others there heq) (h.held heq), if_neg fun hboth => heq hboth.1,
      Option.none_or]

private theorem pointer? {there : Nat} {other : Handle α} (hq : p.pointer? there other = some q)
    (hroom : there = place → p.HasRoom place) : after.pointer? there other = some q := by
  by_cases heq : there = place
  · subst heq
    obtain ⟨t, ht, hheld, -, hblock⟩ := h.own
    obtain ⟨s', hs', hlow⟩ := hroom rfl
    obtain rfl : s' = s := Option.some.inj (hs'.symm.trans hs)
    rw [pointer?_of_slot hs] at hq
    obtain ⟨old, hold, rfl⟩ := Option.map_eq_some_iff.mp hq
    rw [pointer?_of_slot ht, value?_of_slot ht, hheld,
      ((p.held s').insert_extends value).kept (value?_of_slot hs other ▸ hold), hblock hlow]
    rfl
  · rw [pointer?_congr (h.others there heq) (h.held heq), hq]

private theorem slot {there : Nat} {t : ArenaSlot} (ht : p.slots[there]? = some t) :
    ∃ u, after.slots[there]? = some u ∧ t.room ≤ u.room := by
  by_cases heq : there = place
  · subst heq
    obtain ⟨u, hu, -, hroom, -⟩ := h.own
    obtain rfl : t = s := Option.some.inj (ht.symm.trans hs)
    exact ⟨u, hu, hroom⟩
  · exact ⟨t, (h.others there heq).trans ht, le_rfl⟩

end Inserted

/-! ### Writing through a pointer -/

private theorem store_eq_ok (h : p.store q value = .ok after) :
    after = { p with
      blocks := p.blocks.setIfInBounds q.block
        ((p.blocks.getD q.block #[]).setIfInBounds q.offset value) } := by
  unfold store at h
  obtain ⟨_, -, h⟩ := Outcome.bind_eq_ok.mp h
  exact (Except.ok.inj h).symm

private theorem Sound.store (h : p.Sound) (hstore : p.store q value = .ok after) : after.Sound := by
  obtain rfl := store_eq_ok hstore
  exact ⟨h.tag, fun hs => by simpa using h.block hs, h.apart⟩

private theorem Sound.held_store (h : p.Sound) (hstore : p.store q value = .ok after)
    {s : ArenaSlot} (hs : p.slots[place]? = some s) : after.held s =
      if s.block = q.block then ⟨s.tag, (p.held s).items.setIfInBounds q.offset value⟩
      else p.held s := by
  obtain rfl := store_eq_ok hstore
  split
  · next heq =>
    have hlt : q.block < p.blocks.size := heq ▸ h.block hs
    simp [held, heq, Array.getD_eq_getD_getElem?, hlt]
  · next heq => exact held_congr (Array.getElem?_setIfInBounds_ne (Ne.symm heq))

private theorem Sound.value?_store (h : p.Sound) (hstore : p.store q value = .ok after)
    (place : Nat) (id : Handle α) :
    after.value? place id = if p.pointer? place id = some q then some value
      else p.value? place id := by
  have hslots : after.slots = p.slots := by rw [store_eq_ok hstore]
  cases hs : p.slots[place]? with
  | none => simp [value?, view, pointer?, hslots, hs]
  | some s =>
    rw [pointer?_of_slot hs, value?_of_slot hs, value?_of_slot (hslots ▸ hs),
      h.held_store hstore hs]
    obtain ⟨block, offset⟩ := q
    by_cases hblock : s.block = block
    · have hset := (p.held s).get?_setIfInBounds offset value id
      simp only [hblock, if_true]
      refine hset.trans ?_
      cases (p.held s).get? id with
      | none => simp
      | some old => by_cases hoffset : id.index - 1 = offset <;> simp [hoffset]
    · rw [if_neg hblock]
      cases (p.held s).get? id <;> simp [hblock]

private theorem Sound.pointer?_store (h : p.Sound) (hstore : p.store q value = .ok after)
    (place : Nat) (id : Handle α) : after.pointer? place id = p.pointer? place id := by
  have hslots : after.slots = p.slots := by rw [store_eq_ok hstore]
  cases hs : p.slots[place]? with
  | none => simp [pointer?, hslots, hs]
  | some s =>
    rw [pointer?_of_slot (hslots ▸ hs), pointer?_of_slot hs, h.value?_store hstore]
    split
    · next hq =>
      rw [pointer?_of_slot hs] at hq
      obtain ⟨old, hold, hq⟩ := Option.map_eq_some_iff.mp hq
      rw [hold]
      rfl
    · rfl

/-! ### Pointers that stay good -/

def Leads (p : ArenaPool α) (q : Pointer) : Prop :=
  ∃ block, p.blocks[q.block]? = some block ∧ q.offset < block.size

private theorem leads_iff : p.Leads q ↔ ∃ value, p.load q = .ok value := by
  unfold Leads load
  cases p.blocks[q.block]? with
  | none => simp
  | some block => by_cases hlt : q.offset < block.size <;> simp [hlt]

private theorem Leads.of_sizes (h : p.Leads q)
    (hsizes : ∀ (i : Nat) (block : Array α), p.blocks[i]? = some block →
      ∃ larger, after.blocks[i]? = some larger ∧ block.size ≤ larger.size) : after.Leads q := by
  obtain ⟨block, hblock, hlt⟩ := h
  obtain ⟨larger, hlarger, hle⟩ := hsizes _ block hblock
  exact ⟨larger, hlarger, hlt.trans_le hle⟩

private theorem Leads.push (h : p.Leads q) {items : Array α} {slots : Array ArenaSlot} :
    Leads { p with blocks := p.blocks.push items, slots } q := by
  refine h.of_sizes fun i block hblock => ⟨block, ?_, le_rfl⟩
  have hlt : i < p.blocks.size := (Array.getElem?_eq_some_iff.mp hblock).choose
  rw [Array.getElem?_push, if_neg (Nat.ne_of_lt hlt), hblock]

private theorem Leads.setIfInBounds (h : p.Leads q) {i : Nat} {items : Array α}
    (hsize : (p.blocks.getD i #[]).size ≤ items.size) :
    Leads { p with blocks := p.blocks.setIfInBounds i items } q := by
  refine h.of_sizes fun j block hblock => ?_
  have hlt : j < p.blocks.size := (Array.getElem?_eq_some_iff.mp hblock).choose
  by_cases heq : i = j
  · subst heq
    refine ⟨items, Array.getElem?_setIfInBounds_self_of_lt hlt, ?_⟩
    simpa [Array.getD_eq_getD_getElem?, hblock] using hsize
  · exact ⟨block, (Array.getElem?_setIfInBounds_ne heq).trans hblock, le_rfl⟩

private theorem Leads.insert (h : p.Leads q) (hinsert : p.insert place value = .ok (id, after)) :
    after.Leads q := by
  obtain ⟨s, -, -, ⟨-, rfl⟩ | ⟨-, room, -, rfl⟩⟩ := insert_cases hinsert
  · exact h.setIfInBounds (by simp [Arena.insert, held])
  · exact h.push

private theorem Leads.store {r : Pointer} (h : p.Leads q) (hstore : p.store r value = .ok after) :
    after.Leads q := by
  obtain rfl := store_eq_ok hstore
  exact h.setIfInBounds (by simp)

end ArenaPool

/-! ### What one call does -/

namespace ArenaStep

variable {α : Type} {step : ArenaStep α} {place : Nat} {id : Handle α}

private theorem issued?_eq_some :
    step.issued? = some id ↔ ∃ place value, step.Issues place value id := by
  unfold issued?
  constructor
  · intro h
    split at h
    · next hcall hanswer =>
      obtain rfl := Option.some.inj h
      exact ⟨_, _, hcall, hanswer⟩
    · cases h
  · rintro ⟨place, value, hcall, hanswer⟩
    rw [hcall, hanswer]

private theorem stored?_isSome (h : (step.stored? place id).isSome) :
    (∃ value, step.Issues place value id) ∨ (step.before.pointer? place id).isSome := by
  unfold stored? at h
  split at h
  · next hcall hanswer =>
    split at h
    · next hsame =>
      obtain ⟨rfl, hsame⟩ := hsame
      exact .inl ⟨_, hcall, Handle.same_iff.mp hsame ▸ hanswer⟩
    · cases h
  · split at h
    · next hq => exact .inr (Option.isSome_iff_exists.mpr ⟨_, hq⟩)
    · cases h
  · cases h

private theorem stored?_of_issues {value : α} (h : step.Issues place value id) :
    step.stored? place id = some value := by
  obtain ⟨hcall, hanswer⟩ := h
  simp [stored?, hcall, hanswer, Handle.same_iff]

/-- The record of a call tells what the call does to the pool: the handles keep their values except
for one under which a value is stored, and it is new in the arena that issues it. Pointers keep
leading somewhere, and those of an arena stay as long as it has room for what is inserted. -/
structure Effect (step : ArenaStep α) (after : ArenaPool α) : Prop where
  sound : after.Sound
  slot : ∀ {place : Nat} {s : ArenaSlot}, step.before.slots[place]? = some s →
    ∃ t, after.slots[place]? = some t ∧ s.room ≤ t.room
  opened : ∀ {place room}, step.Opens place room →
    ∃ s, after.slots[place]? = some s ∧ room ≤ s.room
  value? : ∀ place id, after.value? place id =
    (step.stored? place id).or (step.before.value? place id)
  new : ∀ {place value id}, step.Issues place value id → step.before.value? place id = none
  gives : ∀ {place id q}, step.Gives place id q → after.pointer? place id = some q
  pointer? : ∀ {place id q}, step.before.pointer? place id = some q →
    (∀ value, step.call = .insert place value → step.before.HasRoom place) →
    after.pointer? place id = some q
  leads : ∀ {q}, step.before.Leads q → after.Leads q

end ArenaStep

namespace ArenaPool

variable {α : Type} {p after : ArenaPool α} {place : Nat} {id : Handle α} {value : α} {q : Pointer}

open ArenaStep (Effect)

private theorem Sound.asked (h : p.Sound) {call : ArenaCall α} {answer : ArenaAnswer α}
    (opens : ∀ place, answer ≠ .opened place) (issues : ∀ id, answer ≠ .issued id)
    (stores : answer ≠ .stored)
    (gives : ∀ {place id q}, ArenaStep.Gives ⟨p, call, answer⟩ place id q →
      p.pointer? place id = some q) : Effect ⟨p, call, answer⟩ p where
  sound := h
  slot hs := ⟨_, hs, le_rfl⟩
  opened hopens := absurd hopens.2 (opens _)
  value? place id := by
    have hstored : ArenaStep.stored? ⟨p, call, answer⟩ place id = none := by
      unfold ArenaStep.stored?
      split
      · next heq => exact absurd heq (issues _)
      · next heq => exact absurd heq stores
      · rfl
    rw [hstored, Option.none_or]
  new hissues := absurd hissues.2 (issues _)
  gives := gives
  pointer? hq _ := hq
  leads hq := hq

private theorem Sound.refused (h : p.Sound) (call : ArenaCall α) (fault : Fault) :
    Effect ⟨p, call, .refused fault⟩ p := by
  refine h.asked (by simp) (by simp) (by simp) ?_
  rintro place id q (⟨-, heq⟩ | ⟨-, heq⟩) <;> cases heq

private theorem Sound.effect_fresh (h : p.Sound) (room : Nat) :
    Effect ⟨p, .fresh room, .opened (p.fresh room).1⟩ (p.fresh room).2 := by
  have hold {place : Nat} {s : ArenaSlot} (hs : p.slots[place]? = some s) :
      (p.fresh room).2.slots[place]? = some s := by
    have hlt : place < p.slots.size := (Array.getElem?_eq_some_iff.mp hs).choose
    rw [slots_fresh, Array.getElem?_push, if_neg (Nat.ne_of_lt hlt), hs]
  have hnew : (p.fresh room).2.slots[p.slots.size]? =
      some ⟨p.slots.size + 1, p.blocks.size, room⟩ := by
    rw [slots_fresh, Array.getElem?_push, if_pos rfl]
  refine ⟨h.fresh room, fun hs => ⟨_, hold hs, le_rfl⟩, ?_, fun place id => ?_, ?_, ?_, ?_, ?_⟩
  · rintro place room' ⟨hcall, hanswer⟩
    cases hcall
    cases hanswer
    exact ⟨_, hnew, le_rfl⟩
  · show _ = p.value? place id
    cases hs : p.slots[place]? with
    | some s => exact value?_congr ((hold hs).trans hs.symm) (held_fresh h room) id
    | none =>
      have hnone : p.value? place id = none := by simp [value?, view, hs]
      rw [hnone]
      by_cases heq : place = p.slots.size
      · rw [heq, value?_of_slot hnew, held_fresh_new]
        simp [Arena.get?]
      · have hnone' : (p.fresh room).2.slots[place]? = none := by
          rw [slots_fresh, Array.getElem?_push, if_neg heq, hs]
        simp [value?, view, hnone']
  · rintro place value id ⟨hcall, -⟩
    cases hcall
  · rintro place id q (⟨hcall, -⟩ | ⟨hcall, -⟩) <;> cases hcall
  · intro place id q hq _
    obtain ⟨s, hs, -⟩ := Option.bind_eq_some_iff.mp hq
    rw [pointer?_congr ((hold hs).trans hs.symm) (held_fresh h room) id]
    exact hq
  · exact fun hq => hq.push

private theorem Sound.effect_insert (h : p.Sound)
    (hinsert : p.insert place value = .ok (id, after)) :
    Effect ⟨p, .insert place value, .issued id⟩ after := by
  obtain ⟨s, hs, rfl, hinserted⟩ := h.insert hinsert
  refine ⟨hinserted.sound, fun ht => hinserted.slot hs ht, ?_, hinserted.value? hs, ?_, ?_, ?_,
    fun hq => hq.insert hinsert⟩
  · rintro place' room ⟨hcall, -⟩
    cases hcall
  · rintro place' value' id' ⟨hcall, hanswer⟩
    cases hcall
    cases hanswer
    rw [value?_of_slot hs]
    exact Option.eq_none_iff_forall_ne_some.mpr fun old hold =>
      (p.held s).insert_not_issued value ⟨old, hold⟩
  · rintro place' id' q (⟨hcall, -⟩ | ⟨hcall, -⟩) <;> cases hcall
  · intro there other q hq hroom
    exact hinserted.pointer? hs hq fun heq => heq ▸ hroom value (by rw [heq])

private theorem Sound.effect_store (h : p.Sound) (hstore : p.store q value = .ok after) :
    Effect ⟨p, .store q value, .stored⟩ after := by
  have hslots : after.slots = p.slots := by rw [store_eq_ok hstore]
  refine ⟨h.store hstore, fun hs => ⟨_, hslots ▸ hs, le_rfl⟩, ?_, fun place id => ?_, ?_, ?_,
    fun hq _ => (h.pointer?_store hstore _ _).trans hq, fun hq => hq.store hstore⟩
  · rintro place room ⟨hcall, -⟩
    cases hcall
  · rw [h.value?_store hstore]
    simp only [ArenaStep.stored?]
    split <;> simp
  · rintro place value id ⟨hcall, -⟩
    cases hcall
  · rintro place id q (⟨hcall, -⟩ | ⟨hcall, -⟩) <;> cases hcall

private theorem find_eq_ok {found : Option Pointer} (h : p.find place id = .ok found) :
    p.pointer? place id = found := by
  obtain ⟨s, hs, h⟩ := Outcome.bind_eq_ok.mp h
  rw [pointer?, slot_eq_ok.mp hs, Option.bind_some]
  exact Except.ok.inj h

private theorem reach_eq_ok (h : p.reach place id = .ok q) : p.pointer? place id = some q := by
  obtain ⟨s, hs, h⟩ := Outcome.bind_eq_ok.mp h
  obtain ⟨value, hvalue, h⟩ := Outcome.bind_eq_ok.mp h
  rw [pointer?, slot_eq_ok.mp hs, Option.bind_some, ((p.held s).get_eq_ok_iff id value).mp hvalue]
  exact congrArg some (Except.ok.inj h)

private theorem Sound.answer_effect (h : p.Sound) (call : ArenaCall α) :
    Effect ⟨p, call, (p.answer call).1⟩ (p.answer call).2 := by
  cases call with
  | fresh room => exact h.effect_fresh room
  | insert place value =>
    rw [answer]
    split
    · next hinsert => exact h.effect_insert hinsert
    · exact h.refused _ _
  | find place id =>
    rw [answer]
    split
    · next hfind =>
      refine h.asked (by simp) (by simp) (by simp) ?_
      rintro place' id' q (⟨hcall, hanswer⟩ | ⟨hcall, -⟩)
      · cases hcall
        cases hanswer
        exact find_eq_ok hfind
      · cases hcall
    · exact h.refused _ _
  | reach place id =>
    rw [answer]
    split
    · next hreach =>
      refine h.asked (by simp) (by simp) (by simp) ?_
      rintro place' id' q (⟨hcall, -⟩ | ⟨hcall, hanswer⟩)
      · cases hcall
      · cases hcall
        cases hanswer
        exact reach_eq_ok hreach
    · exact h.refused _ _
  | load q =>
    rw [answer]
    split
    · refine h.asked (by simp) (by simp) (by simp) ?_
      rintro place id q (⟨hcall, -⟩ | ⟨hcall, -⟩) <;> cases hcall
    · exact h.refused _ _
  | store q value =>
    rw [answer]
    split
    · next hstore => exact h.effect_store hstore
    · exact h.refused _ _

/-! ### What a record tells -/

/-- The record tells what every handle stands for. -/
structure Recorded (log : ArenaLog α) (p : ArenaPool α) : Prop where
  sound : p.Sound
  opened : ∀ {place room}, log.Opened place room →
    ∃ s, p.slots[place]? = some s ∧ room ≤ s.room
  distinct : log.handles.Nodup
  issued : ∀ place id, log.IssuedBy place id ↔ (p.value? place id).isSome
  stored : ∀ place id, log.lastStored place id = p.value? place id
  leads : ∀ {step place id q}, step ∈ log → step.Gives place id q → p.Leads q
  kept : ∀ {earlier step later place id q}, log = earlier ++ step :: later →
    step.Gives place id q →
    (∀ other ∈ later, ∀ value, other.call = .insert place value → other.before.HasRoom place) →
    p.pointer? place id = some q

private theorem isSome_pointer? : (p.pointer? place id).isSome = (p.value? place id).isSome := by
  unfold pointer? value? view
  cases p.slots[place]? with
  | none => rfl
  | some s => simp

private theorem Sound.leads_of_pointer? (h : p.Sound) (hq : p.pointer? place id = some q) :
    p.Leads q := by
  have hsome : (p.value? place id).isSome := by rw [← isSome_pointer?, hq, Option.isSome_some]
  obtain ⟨value, hvalue⟩ := Option.isSome_iff_exists.mp hsome
  exact leads_iff.mpr ⟨value, h.load_of_pointer? hq hvalue⟩

namespace Recorded

variable {log : ArenaLog α} {step : ArenaStep α}

/-- A handle that an arena issues now was issued by no arena before. -/
private theorem unissued (h : Recorded log step.before) (heffect : step.Effect after)
    (hissues : step.Issues place value id) : id ∉ log.handles := by
  intro hid
  obtain ⟨old, hold, hissued⟩ := List.mem_filterMap.mp hid
  obtain ⟨there, first, hfirst⟩ := ArenaStep.issued?_eq_some.mp hissued
  obtain ⟨earlier, hearlier⟩ :=
    Option.isSome_iff_exists.mp ((h.issued there id).mp ⟨old, hold, first, hfirst⟩)
  have hfound : after.value? place id = some value := by
    rw [heffect.value?, ArenaStep.stored?_of_issues hissues, Option.some_or]
  -- The handle names its arena, so that the two arenas are one.
  have hplace := heffect.sound.arena_of_value? hfound
  obtain rfl : there = place := by
    have hthere := h.sound.arena_of_value? hearlier
    omega
  rw [heffect.new hissues] at hearlier
  cases hearlier

private theorem concat (h : Recorded log step.before) (heffect : step.Effect after) :
    Recorded (log ++ [step]) after where
  sound := heffect.sound
  opened := by
    rintro place room ⟨other, hother, hopens⟩
    rcases List.mem_append.mp hother with hold | hnew
    · obtain ⟨s, hs, hroom⟩ := h.opened ⟨other, hold, hopens⟩
      obtain ⟨t, ht, hle⟩ := heffect.slot hs
      exact ⟨t, ht, hroom.trans hle⟩
    · obtain rfl := List.mem_singleton.mp hnew
      exact heffect.opened hopens
  distinct := by
    rw [log.handles_concat]
    cases hissued : step.issued? with
    | none => simpa using h.distinct
    | some id =>
      obtain ⟨place, value, hissues⟩ := ArenaStep.issued?_eq_some.mp hissued
      simpa [List.nodup_append_comm] using ⟨h.unissued heffect hissues, h.distinct⟩
  issued place id := by
    rw [log.issuedBy_concat, heffect.value?, Option.isSome_or, Bool.or_eq_true, ← h.issued]
    constructor
    · rintro (hold | ⟨value, hnew⟩)
      · exact .inr hold
      · exact .inl (by rw [ArenaStep.stored?_of_issues hnew, Option.isSome_some])
    · rintro (hstored | hold)
      · rcases ArenaStep.stored?_isSome hstored with hnew | hq
        · exact .inr hnew
        · exact .inl ((h.issued place id).mpr (isSome_pointer? ▸ hq))
      · exact .inl hold
  stored place id := by rw [log.lastStored_concat, heffect.value?, h.stored]
  leads hother hgives := by
    rcases List.mem_append.mp hother with hold | hnew
    · exact heffect.leads (h.leads hold hgives)
    · obtain rfl := List.mem_singleton.mp hnew
      exact heffect.sound.leads_of_pointer? (heffect.gives hgives)
  kept := by
    intro earlier other later place id q hlog hgives hroom
    rcases List.eq_nil_or_concat' later with rfl | ⟨later, last, rfl⟩
    · obtain ⟨-, rfl⟩ := List.append_inj' hlog rfl |>.imp_right List.singleton_inj.mp
      exact heffect.gives hgives
    · rw [← List.cons_append, ← List.append_assoc] at hlog
      obtain ⟨hinit, hlast⟩ := List.append_inj' hlog rfl
      obtain rfl := List.singleton_inj.mp hlast
      refine heffect.pointer? (h.kept hinit hgives fun mid hmid => hroom mid (by simp [hmid])) ?_
      exact hroom step (by simp)

private theorem run (h : Recorded log p) (calls : List (ArenaCall α)) :
    Recorded (log ++ (p.run calls).1) (p.run calls).2 := by
  induction calls generalizing log p with
  | nil => simpa [ArenaPool.run] using h
  | cons call calls ih =>
    have hstep : Recorded (log ++ [⟨p, call, (p.answer call).1⟩]) (p.answer call).2 :=
      h.concat (h.sound.answer_effect call)
    have hrest := ih hstep
    rwa [List.append_assoc] at hrest

end Recorded

/-! ### What handles find -/

section Open

variable {s : ArenaSlot} (hs : p.slots[place]? = some s)
include hs

end Open

/-- An arena with room for one value gets a second one, and moves. Then a pointer from before the
move is written through. -/
private def movedCalls : List (ArenaCall Nat) :=
  [.fresh 1, .insert 0 7, .reach 0 ⟨1, 1⟩, .insert 0 8, .store ⟨0, 0⟩ 9]

private def moved : ArenaPool Nat := (({} : ArenaPool Nat).run movedCalls).2

end ArenaPool

end Keywordless
