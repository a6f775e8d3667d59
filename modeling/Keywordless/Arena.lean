import Keywordless.Fault

/-!
# Arenas

Append-only stores. A handle names the arena that issued it and a position in it, so that using a
handle with another arena is noticed.
-/

namespace Keywordless

/-- A handle into one arena. The type `κ` says what the arena is for, so that handles of different
purposes do not mix. Positions count from one; the handle with position zero is never issued. -/
structure Handle (κ : Type) where
  arena : Nat
  index : Nat
  deriving DecidableEq, Repr

namespace Handle

def none {κ : Type} : Handle κ := ⟨0, 0⟩

instance {κ : Type} : Inhabited (Handle κ) := ⟨none⟩

def isIssued {κ : Type} (id : Handle κ) : Bool := id.index != 0

def text {κ : Type} (id : Handle κ) : Bytes := handleText id.index

end Handle

structure Arena (κ α : Type) where
  tag : Nat
  items : Array α := #[]

namespace Arena

variable {κ α : Type}

def size (a : Arena κ α) : Nat := a.items.size

def insert (a : Arena κ α) (value : α) : Handle κ × Arena κ α :=
  (⟨a.tag, a.items.size + 1⟩, { a with items := a.items.push value })

def get? (a : Arena κ α) (id : Handle κ) : Option α :=
  if id.index = 0 || id.arena != a.tag then Option.none else a.items[id.index - 1]?

def refusal (a : Arena κ α) (id : Handle κ) : Fault :=
  if id.index != 0 && id.arena != a.tag then .foreignId id.index else .unknownId id.index

def get (a : Arena κ α) (id : Handle κ) : Except Fault α :=
  match a.get? id with
  | some value => .ok value
  | Option.none => .error (a.refusal id)

end Arena

structure Pointer where
  block : Nat
  offset : Nat
  deriving DecidableEq, Repr

/-- An arena of a pool. Its values fill a block from the start, which has room for so many. -/
structure ArenaSlot where
  tag : Nat
  block : Nat
  room : Nat
  deriving Repr

/-- Arenas of one value type under distinct tags, and the memory their values lie in. An arena that
outgrows its block moves to a new one, and pointers into the old block stay with what was there. -/
structure ArenaPool (α : Type) where
  blocks : Array (Array α) := #[]
  slots : Array ArenaSlot := #[]
  grow : Nat → Nat := (2 * ·)

namespace ArenaPool

variable {α : Type}

def fresh (p : ArenaPool α) (room : Nat := 0) : Nat × ArenaPool α :=
  (p.slots.size, { p with
    blocks := p.blocks.push #[]
    slots := p.slots.push { tag := p.slots.size + 1, block := p.blocks.size, room } })

def slot (p : ArenaPool α) (place : Nat) : Except Fault ArenaSlot :=
  match p.slots[place]? with
  | some s => .ok s
  | none => .error .outOfRange

def held (p : ArenaPool α) (s : ArenaSlot) : Arena α α := ⟨s.tag, p.blocks.getD s.block #[]⟩

def arena (p : ArenaPool α) (place : Nat) : Except Fault (Arena α α) := do
  return p.held (← p.slot place)

/-- A value that finds no room moves with all others to a new block. -/
def insert (p : ArenaPool α) (place : Nat) (value : α) : Except Fault (Handle α × ArenaPool α) := do
  let s ← p.slot place
  let (id, a) := (p.held s).insert value
  if a.size ≤ s.room then
    return (id, { p with blocks := p.blocks.setIfInBounds s.block a.items })
  else
    let moved := { s with block := p.blocks.size, room := max a.size (p.grow s.room) }
    return (id, { p with
      blocks := p.blocks.push a.items
      slots := p.slots.setIfInBounds place moved })

def find (p : ArenaPool α) (place : Nat) (id : Handle α) : Except Fault (Option Pointer) := do
  let s ← p.slot place
  return ((p.held s).get? id).map fun _ => ⟨s.block, id.index - 1⟩

def reach (p : ArenaPool α) (place : Nat) (id : Handle α) : Except Fault Pointer := do
  let s ← p.slot place
  let _ ← (p.held s).get id
  return ⟨s.block, id.index - 1⟩

def load (p : ArenaPool α) (q : Pointer) : Except Fault α :=
  match p.blocks[q.block]?.bind (·[q.offset]?) with
  | some value => .ok value
  | none => .error .outOfRange

def store (p : ArenaPool α) (q : Pointer) (value : α) : Except Fault (ArenaPool α) := do
  let _ ← p.load q
  let block := (p.blocks.getD q.block #[]).setIfInBounds q.offset value
  return { p with blocks := p.blocks.setIfInBounds q.block block }

def set (p : ArenaPool α) (place : Nat) (id : Handle α) (value : α) :
    Except Fault (ArenaPool α) := do
  p.store (← p.reach place id) value

end ArenaPool

end Keywordless
