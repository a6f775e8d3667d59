import Keywordless.Text.Bytes

/-!
# Diagnostic codes

Stable numbers for every kind of problem, grouped by the part of the program that finds it.
-/

namespace Keywordless

structure Code where
  number : Nat
  deriving DecidableEq, Repr, Inhabited

namespace Code

def unknown : Code := ⟨0⟩
def unknownChar : Code := ⟨1001⟩
def badNumber : Code := ⟨1002⟩
def unexpectedToken : Code := ⟨2001⟩
def expectToken : Code := ⟨2002⟩
def expectIdentifier : Code := ⟨2003⟩
def expectDeclaration : Code := ⟨2004⟩
def unexpectedEnd : Code := ⟨2005⟩
def onlyConstants : Code := ⟨3001⟩
def undefinedName : Code := ⟨3002⟩
def notConstant : Code := ⟨3003⟩
def notAType : Code := ⟨3004⟩
def typeMismatch : Code := ⟨3005⟩
def returnMismatch : Code := ⟨3006⟩
def argumentMismatch : Code := ⟨3007⟩
def unsupportedConversion : Code := ⟨3008⟩
def arityMismatch : Code := ⟨3009⟩
def defaultParameter : Code := ⟨3010⟩
def unknownMember : Code := ⟨3011⟩
def noMembers : Code := ⟨3012⟩
def notCallable : Code := ⟨3013⟩
def missingType : Code := ⟨3014⟩
def integerOverflow : Code := ⟨3015⟩
def missingMain : Code := ⟨3016⟩
def badMainSignature : Code := ⟨3017⟩
def unimplemented : Code := ⟨3099⟩
def loadFailed : Code := ⟨4001⟩

private def unknownTitle : String := "Unknown error"

private def titles : List (Nat × String) := [
  (0, unknownTitle),
  (1000, "Lexical information"),
  (1001, "Unknown character"),
  (1002, "Malformed number literal"),
  (2000, "Syntax information"),
  (2001, "Unexpected token"),
  (2002, "Expected token"),
  (2003, "Expected identifier"),
  (2004, "Expected declaration"),
  (2005, "Unexpected end of file"),
  (3000, "Semantic information"),
  (3001, "Only constants are allowed in the global scope"),
  (3002, "Undefined name"),
  (3003, "Expression is not a compile-time constant"),
  (3004, "Expression is not a type"),
  (3005, "Type mismatch"),
  (3006, "Body type does not match return type"),
  (3007, "Argument type mismatch"),
  (3008, "Unsupported conversion"),
  (3009, "Wrong number of arguments"),
  (3010, "Default parameter values are not supported"),
  (3011, "Unknown member"),
  (3012, "Type has no members"),
  (3013, "Expression is not callable"),
  (3014, "Declaration needs a type or a value"),
  (3015, "Integer literal out of range"),
  (3016, "Missing main procedure"),
  (3017, "Wrong main procedure signature"),
  (3099, "Language feature not implemented yet"),
  (4001, "I/O load file error")]

/-- The short identifier: the group in letters and the number. -/
def id (c : Code) : Bytes :=
  let tagged (group : String) : Bytes := group ++ Bytes.ofNatPadded 4 c.number
  match c.number / 1000 with
  | 1 => tagged "LEX"
  | 2 => tagged "SYN"
  | 3 => tagged "SEM"
  | 4 => tagged "IO"
  | _ => "E0000"

def title (c : Code) : Bytes := (titles.lookup c.number).getD unknownTitle

def text (c : Code) : Bytes := "[" ++ c.id ++ "]: " ++ c.title

end Code

end Keywordless
