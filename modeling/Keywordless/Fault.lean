import Keywordless.Text.Bytes

/-!
# Faults

A fault is a broken precondition of the library: a handle of the wrong arena, a graph query on a
node that cannot answer it. User programs never cause one; hand-built data can.
-/

namespace Keywordless

def handleText (index : Nat) : Bytes := if index = 0 then "#none" else "#" ++ Bytes.ofNat index

/-- Causes of a fault. Handles are given by their position, zero for the empty handle. -/
inductive Fault where
  | unknownId (index : Nat)
  | foreignId (index : Nat)
  | outOfRange
  | noConstancy (kind : Bytes) (index : Nat)
  | noType (index : Nat)
  | notConstant (index : Nat)
  | noValue (kind : Bytes) (index : Nat)
  /-- A walk does not get closer to its end. -/
  | endless
  /-- A file whose offsets are not all 32-bit words. -/
  | oversized
  deriving DecidableEq, Repr

def Fault.message : Fault → Bytes
  | unknownId i => "arena: unknown id " ++ handleText i
  | foreignId i => "arena: id " ++ handleText i ++ " belongs to another arena"
  | outOfRange => "runtime error"
  | noConstancy kind i => "bound: IsConstant on " ++ kind ++ " node " ++ handleText i
  | noType i => "bound: TypeOf on invalid node " ++ handleText i
  | notConstant i => "eval: node " ++ handleText i ++ " is not constant"
  | noValue kind i => "eval: unexpected " ++ kind ++ " node " ++ handleText i
  | endless => "endless walk"
  | oversized => "len file content overflow"

end Keywordless
