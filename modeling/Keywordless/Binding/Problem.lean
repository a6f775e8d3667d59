import Keywordless.Diagnostic.Basic
import Keywordless.Graph.Query
import Keywordless.Source.FileSet
import Keywordless.Text.Quoted

/-!
# Binding errors

What can be wrong with the meaning of a program, with the code and the wording of each problem.
-/

namespace Keywordless

inductive TypeUse where
  | ascription (name : Bytes)
  | returnType
  | elementType
  | conversionTarget

def TypeUse.text : TypeUse → Bytes
  | ascription name => "type annotation of " ++ Quoted.text name
  | returnType => "return type"
  | elementType => "element type"
  | conversionTarget => "conversion target"

/-- Causes of a binding error. Types are given as they are written in source. -/
inductive BindProblem where
  | onlyConstants
  | undefinedName (name : Bytes)
  | runtimeValue (name : Bytes)
  | runtimeType (use : TypeUse)
  | notAType (use : TypeUse) (actual : Bytes)
  /-- An expression of type `type` has a value that is no type. -/
  | notATypeValue (use : TypeUse) (value : Value)
  | constantMismatch (name declared actual : Bytes)
  | declarationMismatch (name declared actual : Bytes)
  | missingType (name : Bytes)
  | integerOverflow (literal type : Bytes)
  | noMembers (type : Bytes)
  | unknownMember (type name : Bytes)
  | parameterNotDeclared
  | defaultParameter
  | returnMismatch (actual declared : Bytes)
  | notCallable (type : Bytes)
  | conversionArity (type : Bytes) (count : Nat)
  | unsupportedConversion (source target : Bytes)
  | procedureArity (type : Bytes) (expected count : Nat)
  | argumentMismatch (position : Nat) (actual expected : Bytes)
  | structType
  | arrayType
  | procedureType
  | unevaluated (reason : Graph.Unsupported)
  | unbindable (kind : Bytes)
  | missingMain
  | badMain (expected actual : Bytes)

namespace BindProblem

def code : BindProblem → Code
  | onlyConstants => .onlyConstants
  | undefinedName _ => .undefinedName
  | runtimeValue _ => .notConstant
  | runtimeType _ => .notConstant
  | notAType .. => .notAType
  | notATypeValue .. => .notAType
  | constantMismatch .. => .typeMismatch
  | declarationMismatch .. => .typeMismatch
  | missingType _ => .missingType
  | integerOverflow .. => .integerOverflow
  | noMembers _ => .noMembers
  | unknownMember .. => .unknownMember
  | parameterNotDeclared => .expectDeclaration
  | defaultParameter => .defaultParameter
  | returnMismatch .. => .returnMismatch
  | notCallable _ => .notCallable
  | conversionArity .. => .arityMismatch
  | unsupportedConversion .. => .unsupportedConversion
  | procedureArity .. => .arityMismatch
  | argumentMismatch .. => .argumentMismatch
  | structType => .unimplemented
  | arrayType => .unimplemented
  | procedureType => .unimplemented
  | unevaluated _ => .unimplemented
  | unbindable _ => .unknown
  | missingMain => .missingMain
  | badMain .. => .badMainSignature

def message : BindProblem → Bytes
  | onlyConstants => "Only constants are allowed in the global scope"
  | undefinedName name => "undefined name " ++ Quoted.text name
  | runtimeValue name =>
    "value of constant " ++ Quoted.text name ++ " must be a compile-time constant"
  | runtimeType use => use.text ++ " must be a compile-time constant"
  | notAType use actual => use.text ++ " must be a type, but it has type " ++ actual
  | notATypeValue use value => use.text ++ " must be a type, but it is " ++ value.text
  | constantMismatch name declared actual =>
    "constant " ++ Quoted.text name ++ " is declared as " ++ declared ++
      ", but its value has type " ++ actual
  | declarationMismatch name declared actual =>
    Quoted.text name ++ " is declared as " ++ declared ++ ", but its value has type " ++ actual
  | missingType name => "declaration of " ++ Quoted.text name ++ " needs a type or a value"
  | integerOverflow literal type => "integer literal " ++ literal ++ " does not fit in " ++ type
  | noMembers type => "values of type " ++ type ++ " have no members"
  | unknownMember type name => "type " ++ type ++ " has no member " ++ Quoted.text name
  | parameterNotDeclared => "procedure parameters must be declarations"
  | defaultParameter => "default values for procedure parameters are not supported"
  | returnMismatch actual declared =>
    "procedure body has type " ++ actual ++ ", but the return type is " ++ declared
  | notCallable type => "values of type " ++ type ++ " are not callable"
  | conversionArity type count =>
    "conversion to " ++ type ++ " takes exactly one argument, got " ++ Bytes.ofNat count
  | unsupportedConversion source target => "cannot convert " ++ source ++ " to " ++ target
  | procedureArity type expected count =>
    "procedure of type " ++ type ++ " takes " ++ Bytes.ofNat expected ++ " argument(s), got " ++
      Bytes.ofNat count
  | argumentMismatch position actual expected =>
    "argument " ++ Bytes.ofNat position ++ " has type " ++ actual ++
      ", but the parameter has type " ++ expected
  | structType => "struct types are not supported yet"
  | arrayType => "array types are not supported yet"
  | procedureType => "procedure types without a body are not supported yet"
  | unevaluated reason =>
    "constant evaluation of " ++ reason.kind.title ++ " nodes is not supported yet"
  | unbindable kind => "cannot bind " ++ kind ++ " expression"
  | missingMain => "Expected a procedure called main"
  | badMain expected actual =>
    "Expected the main function to have the type " ++ expected ++ ", but got " ++ actual

def reason? : BindProblem → Option Graph.Unsupported
  | unevaluated reason => some reason
  | _ => none

end BindProblem

structure BindError where
  problem : BindProblem
  span : Span
  place : Option (Bytes × LineCol) := none
  notes : List Note := []

namespace BindError

def code (e : BindError) : Code := e.problem.code

def text (e : BindError) : Bytes :=
  match e.place with
  | some (path, pos) =>
    path ++ ":" ++ Bytes.ofNat pos.line ++ ":" ++ Bytes.ofNat pos.col ++ ": " ++ e.problem.message
  | none => e.problem.message

def isUnimplemented (e : BindError) : Bool := e.code == .unimplemented

def diagnostic (e : BindError) : Diagnostic :=
  { Diagnostic.error e.code e.span e.problem.message with notes := e.notes }

end BindError

inductive BindFailure where
  | error (e : BindError)
  | fault (f : Fault)

end Keywordless
