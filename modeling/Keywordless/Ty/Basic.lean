import Keywordless.Arena

/-!
# Types

A type is primitive, wraps an element type, or is the type of a procedure. Descriptors refer to
their components by handle, terms contain them.
-/

namespace Keywordless

/-- The types without components. `type` is the type of expressions that denote types. -/
inductive Primitive where
  | type
  | void
  | int
  | uint
  | u8
  deriving DecidableEq, Repr

inductive Wrapper where
  | slice
  | pointer
  | multipointer
  deriving DecidableEq, Repr

inductive TyKind where
  | primitive (p : Primitive)
  | wrapped (w : Wrapper)
  | procedure
  | unlisted
  deriving DecidableEq, Repr

namespace Primitive

def name : Primitive → Bytes
  | type => "type"
  | void => "void"
  | int => "int"
  | uint => "uint"
  | u8 => "u8"

def all : List Primitive := [type, void, int, uint, u8]

def place : Primitive → Nat
  | type => 1
  | void => 2
  | int => 3
  | uint => 4
  | u8 => 5

def isInteger : Primitive → Bool
  | int | uint | u8 => true
  | type | void => false

def largest : Primitive → Nat
  | u8 => Nat.pow 2 8 - 1
  | uint => Nat.pow 2 64 - 1
  | _ => Nat.pow 2 63 - 1

end Primitive

namespace Wrapper

def name : Wrapper → Bytes
  | slice => "slice"
  | pointer => "pointer"
  | multipointer => "multipointer"

def mark : Wrapper → Bytes
  | slice => "[]"
  | pointer => "^"
  | multipointer => "[^]"

end Wrapper

namespace TyKind

def all : List TyKind :=
  Primitive.all.map primitive ++
    [wrapped .slice, wrapped .pointer, wrapped .multipointer, procedure]

def ofNumber (n : Nat) : TyKind := (all[n]?).getD unlisted

def name : TyKind → Bytes
  | primitive p => p.name
  | wrapped w => w.name
  | procedure => "procedure"
  | unlisted => "Kind(?)"

def isPrimitive : TyKind → Bool
  | primitive _ => true
  | _ => false

def isInteger : TyKind → Bool
  | primitive p => p.isInteger
  | _ => false

def size : TyKind → Nat
  | primitive .void => 0
  | primitive .u8 => 1
  | wrapped .slice => 16
  | unlisted => 0
  | _ => 8

end TyKind

inductive TySpace
  deriving DecidableEq, Repr

abbrev TyId := Handle TySpace

inductive Ty where
  | primitive (p : Primitive)
  | wrapped (w : Wrapper) (elem : TyId)
  | procedure (params : List TyId) (result : TyId)
  deriving DecidableEq, Repr

namespace Ty

def kind : Ty → TyKind
  | primitive p => .primitive p
  | wrapped w _ => .wrapped w
  | procedure .. => .procedure

def elem : Ty → TyId
  | wrapped _ e => e
  | _ => Handle.none

def params : Ty → List TyId
  | procedure ps _ => ps
  | _ => []

def result : Ty → TyId
  | procedure _ r => r
  | _ => Handle.none

end Ty

/-- A type with its components in full. -/
inductive TyTerm where
  | primitive (p : Primitive)
  | wrapped (w : Wrapper) (elem : TyTerm)
  | procedure (params : List TyTerm) (result : TyTerm)

namespace TyTerm

mutual

def text : TyTerm → Bytes
  | primitive p => p.name
  | wrapped w elem => w.mark ++ text elem
  | procedure params result => "(" ++ Bytes.join ", " (texts params) ++ ") -> " ++ text result

def texts : List TyTerm → List Bytes
  | [] => []
  | t :: rest => text t :: texts rest

end

end TyTerm

end Keywordless
