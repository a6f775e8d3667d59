import Keywordless.Text.Blank

/-!
# Keywords of other languages

The language has no keywords, but a name that is not bound may be a keyword that its writer knows
from elsewhere. Such a name gets a note with the way to say it here.
-/

namespace Keywordless

inductive Dialect where
  | unknown
  | rust
  | go
  | typeScript
  | python
  | c
  deriving DecidableEq, Repr

namespace Dialect

def all : List Dialect := [unknown, rust, go, typeScript, python, c]

def ofNumber (n : Nat) : Dialect := (all[n]?).getD unknown

def name : Dialect → Bytes
  | unknown => "unknown"
  | rust => "rust"
  | go => "go"
  | typeScript => "typescript"
  | python => "python"
  | c => "c"

end Dialect

inductive Construct where
  | procedure
  | variable_
  | constant
  | result
  | type
  deriving DecidableEq, Repr

namespace Construct

def number : Construct → Nat
  | procedure => 0
  | variable_ => 1
  | constant => 2
  | result => 3
  | type => 4

/-- How the construct is written in this language. -/
def advice : Construct → Bytes
  | procedure => "procedures are constants: `name :: (x: int) -> int \x7b x \x7d`"
  | variable_ => "declare variables with `name := value` or `name : type = value`"
  | constant => "declare constants with `name :: value` or `name : type : value`"
  | result => "a block evaluates to its last expression"
  | type => "types are constants too: `Bytes :: []u8`"

end Construct

/-- A name that is a keyword elsewhere. -/
structure ForeignKeyword where
  keyword : Bytes
  dialect : Dialect
  construct : Construct

namespace ForeignKeyword

private def known : List (String × Dialect × Construct) := [
  ("fn", .rust, .procedure), ("let", .rust, .variable_), ("mut", .rust, .variable_),
  ("static", .rust, .constant), ("impl", .rust, .type), ("trait", .rust, .type),
  ("enum", .rust, .type), ("struct", .rust, .type),
  ("func", .go, .procedure), ("var", .go, .variable_), ("const", .go, .constant),
  ("return", .go, .result),
  ("function", .typeScript, .procedure), ("interface", .typeScript, .type),
  ("def", .python, .procedure), ("lambda", .python, .procedure),
  ("typedef", .c, .type), ("auto", .c, .variable_)]

def ofName? (name : Bytes) : Option ForeignKeyword :=
  let lowered := Bytes.lower name
  (known.find? fun (word, _) => Bytes.ofString word == lowered).map fun (_, dialect, construct) =>
    { keyword := name, dialect, construct }

def note (k : ForeignKeyword) : Bytes :=
  "`" ++ k.keyword ++ "` is a " ++ k.dialect.name ++ " keyword, but nkl has no keywords; " ++
    k.construct.advice

end ForeignKeyword

end Keywordless
