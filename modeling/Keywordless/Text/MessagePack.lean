import Keywordless.Text.Bytes

/-!
# MessagePack

Documents in the MessagePack format. Any document can be read; documents are written in the widest
forms, so that every kind of value has one form.
-/

namespace Keywordless

/-- A document. Numbers are wide enough for every integer of the format; text and raw bytes are not
told apart. -/
inductive MessagePack where
  | nil
  | number (value : Int)
  /-- A number that may have had decimals, which are cut off. -/
  | fraction (whole : Int)
  | text (value : Bytes)
  | list (items : List MessagePack)
  | map (members : List (MessagePack × MessagePack))
  | other

namespace MessagePack

def bigEndian : Nat → Nat → Bytes
  | 0, _ => []
  | width + 1, n => (n / Nat.pow 256 width % 256).toUInt8 :: bigEndian width n

def ofBigEndian (bytes : Bytes) : Nat := bytes.foldl (fun n b => n * 256 + b.toNat) 0

mutual

def encode : MessagePack → Bytes
  | nil | other => [0xC0]
  | number n | fraction n => 0xD3 :: bigEndian 8 (n % (Nat.pow 2 64 : Int)).toNat
  | text t => 0xDB :: bigEndian 4 t.length ++ t
  | list items => 0xDD :: bigEndian 4 items.length ++ encodeItems items
  | map members => 0xDF :: bigEndian 4 members.length ++ encodeMembers members

private def encodeItems : List MessagePack → Bytes
  | [] => []
  | item :: rest => encode item ++ encodeItems rest

private def encodeMembers : List (MessagePack × MessagePack) → Bytes
  | [] => []
  | (key, value) :: rest => encode key ++ encode value ++ encodeMembers rest

end

private def take? (width : Nat) (bytes : Bytes) : Option (Bytes × Bytes) :=
  if width ≤ bytes.length then some (bytes.take width, bytes.drop width) else none

private def nat? (width : Nat) (bytes : Bytes) : Option (Nat × Bytes) := do
  let (digits, rest) ← take? width bytes
  return (ofBigEndian digits, rest)

private def int? (width : Nat) (bytes : Bytes) : Option (Int × Bytes) := do
  let (n, rest) ← nat? width bytes
  let range := Nat.pow 256 width
  return (if 2 * n < range then (n : Int) else (n : Int) - (range : Int), rest)

/-- The whole part of a binary fraction with the given numbers of exponent and mantissa bits, toward
zero; what is not finite counts as zero. -/
private def wholePart (exponentBits mantissaBits bits : Nat) : Int :=
  let mantissa := bits % Nat.pow 2 mantissaBits
  let exponent := bits / Nat.pow 2 mantissaBits % Nat.pow 2 exponentBits
  let bias := Nat.pow 2 (exponentBits - 1) - 1
  if exponent = Nat.pow 2 exponentBits - 1 || exponent < bias then 0
  else
    let one := Nat.pow 2 mantissaBits
    let whole : Int := ((one + mantissa) * Nat.pow 2 (exponent - bias) / one : Nat)
    if bits / Nat.pow 2 (exponentBits + mantissaBits) = 0 then whole else -whole

private inductive Lead where
  | whole (value : MessagePack)
  | number (signed : Bool) (width : Nat)
  | fraction (exponentBits mantissaBits width : Nat)
  | text (width length : Nat)
  | list (width length : Nat)
  | map (width length : Nat)
  | skipped (width length : Nat)

private def lead? (code : UInt8) : Option Lead :=
  let c := code.toNat
  if c < 0x80 then some (.whole (.number c))
  else if c < 0x90 then some (.map 0 (c - 0x80))
  else if c < 0xA0 then some (.list 0 (c - 0x90))
  else if c < 0xC0 then some (.text 0 (c - 0xA0))
  else if c ≥ 0xE0 then some (.whole (.number ((c : Int) - 0x100)))
  else
    match c with
    | 0xC0 => some (.whole .nil)
    | 0xC2 | 0xC3 => some (.whole .other)
    | 0xC4 | 0xD9 => some (.text 1 0)
    | 0xC5 | 0xDA => some (.text 2 0)
    | 0xC6 | 0xDB => some (.text 4 0)
    | 0xC7 => some (.skipped 1 1)
    | 0xC8 => some (.skipped 2 1)
    | 0xC9 => some (.skipped 4 1)
    | 0xCA => some (.fraction 8 23 4)
    | 0xCB => some (.fraction 11 52 8)
    | 0xCC => some (.number false 1)
    | 0xCD => some (.number false 2)
    | 0xCE => some (.number false 4)
    | 0xCF => some (.number false 8)
    | 0xD0 => some (.number true 1)
    | 0xD1 => some (.number true 2)
    | 0xD2 => some (.number true 4)
    | 0xD3 => some (.number true 8)
    | 0xD4 => some (.skipped 0 2)
    | 0xD5 => some (.skipped 0 3)
    | 0xD6 => some (.skipped 0 5)
    | 0xD7 => some (.skipped 0 9)
    | 0xD8 => some (.skipped 0 17)
    | 0xDC => some (.list 2 0)
    | 0xDD => some (.list 4 0)
    | 0xDE => some (.map 2 0)
    | 0xDF => some (.map 4 0)
    | _ => none

private def length? (width known : Nat) (bytes : Bytes) : Option (Nat × Bytes) := do
  let (n, rest) ← nat? width bytes
  return (known + n, rest)

mutual

/-- Reads one document. Two units of fuel for each byte are enough, and two more. -/
private def read? : Nat → Bytes → Option (MessagePack × Bytes)
  | 0, _ => none
  | _, [] => none
  | fuel + 1, code :: bytes =>
    match lead? code with
    | none => none
    | some (.whole value) => some (value, bytes)
    | some (.number true width) => (int? width bytes).map fun (n, rest) => (.number n, rest)
    | some (.number false width) => (nat? width bytes).map fun (n, rest) => (.number n, rest)
    | some (.fraction exponentBits mantissaBits width) =>
      (nat? width bytes).map fun (n, rest) =>
        (.fraction (wholePart exponentBits mantissaBits n), rest)
    | some (.text width known) => do
      let (n, rest) ← length? width known bytes
      let (t, rest) ← take? n rest
      return (.text t, rest)
    | some (.skipped width known) => do
      let (n, rest) ← length? width known bytes
      let (_, rest) ← take? n rest
      return (.other, rest)
    | some (.list width known) => do
      let (n, rest) ← length? width known bytes
      let (items, rest) ← readItems? fuel n rest
      return (.list items, rest)
    | some (.map width known) => do
      let (n, rest) ← length? width known bytes
      let (members, rest) ← readMembers? fuel n rest
      return (.map members, rest)

private def readItems? : Nat → Nat → Bytes → Option (List MessagePack × Bytes)
  | _, 0, bytes => some ([], bytes)
  | 0, _, _ => none
  | fuel + 1, count + 1, bytes => do
    let (item, rest) ← read? fuel bytes
    let (items, rest) ← readItems? fuel count rest
    return (item :: items, rest)

private def readMembers? : Nat → Nat → Bytes → Option (List (MessagePack × MessagePack) × Bytes)
  | _, 0, bytes => some ([], bytes)
  | 0, _, _ => none
  | fuel + 1, count + 1, bytes => do
    let (key, rest) ← read? fuel bytes
    let (value, rest) ← read? fuel rest
    let (members, rest) ← readMembers? fuel count rest
    return ((key, value) :: members, rest)

end

def decode? (bytes : Bytes) : Option MessagePack :=
  (read? (2 * bytes.length + 2) bytes).map Prod.fst

/-! ### Reading values -/

abbrev Reader (α : Type) := α → MessagePack → Option α

def word (bits : Nat) : Reader Nat
  | _, nil => some 0
  | _, number n => some (n % (Nat.pow 2 bits : Int)).toNat
  | _, _ => none

def whole : Reader Int
  | _, nil => some 0
  | _, number n | _, fraction n => some n
  | _, _ => none

def text? : MessagePack → Option Bytes
  | nil => some []
  | text t => some t
  | _ => none

def bytes : Reader Bytes
  | _, v => v.text?

/-- A list that keeps the elements it had when it was longer. -/
structure Slots (α : Type) where
  kept : List α := []
  count : Nat := 0

def Slots.items {α : Type} (s : Slots α) : List α := s.kept.take s.count

private def readSlots {α : Type} (empty : α) (read : Reader α) :
    List α → List MessagePack → Option (List α)
  | kept, [] => some kept
  | kept, item :: rest => do
    let value ← read (kept.head?.getD empty) item
    return value :: (← readSlots empty read kept.tail rest)

def slots {α : Type} (empty : α) (read : Reader α) : Reader (Slots α)
  | _, nil => some {}
  | s, list items => return ⟨← readSlots empty read s.kept items, items.length⟩
  | _, _ => none

/-- Reads the members of a map in turn; those without a field are passed over. -/
private def readMembers {α : Type} (fields : List (String × Reader α)) :
    α → List (MessagePack × MessagePack) → Option α
  | record, [] => some record
  | record, (key, value) :: rest => do
    let name ← key.text?
    match fields.find? fun f => Bytes.ofString f.1 == name with
    | none => readMembers fields record rest
    | some (_, read) => readMembers fields (← read record value) rest

private def readFields {α : Type} : List (String × Reader α) → α → List MessagePack → Option α
  | [], record, [] => some record
  | (_, read) :: fields, record, value :: rest => do
    readFields fields (← read record value) rest
  | _, _, _ => none

/-- A record: a map, whose members are read in turn into the fields of their names, or a list with
exactly the fields in order. Nothing and the empty list are the record `empty`. -/
def record {α : Type} (empty : α) (fields : List (String × Reader α)) : Reader α
  | _, nil | _, list [] => some empty
  | r, list items => readFields fields r items
  | r, map members => readMembers fields r members
  | _, _ => none

def ofFields (members : List (String × MessagePack)) : MessagePack :=
  map (members.map fun (name, value) => (text name, value))

end MessagePack

end Keywordless
