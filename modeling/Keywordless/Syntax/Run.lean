import Keywordless.Syntax.Stream

/-!
# Runs of the parser

A step of the parser has an outcome and says what it did: which rules of the grammar it entered,
which tokens it took and how its loops went round. A step that fails keeps the record of what it did
before, so that a token that was read again would be recorded again.
-/

namespace Keywordless.Syntax

inductive Loop where
  | items
  | block
  | list
  | postfixes
  deriving DecidableEq, Repr

inductive ParseEvent where
  | entered
  | took (t : Token)
  /-- A loop that went round from one stream goes round again from another one. -/
  | again (loop : Loop) (before after : TokenStream)

structure Run (α : Type) where
  events : List ParseEvent := []
  /-- A step that fails says where it stopped. -/
  outcome : Except TokenStream α

namespace Run

variable {α : Type}

instance : Monad Run where
  pure a := { outcome := .ok a }
  bind x next :=
    match x.outcome with
    | .error stopped => { events := x.events, outcome := .error stopped }
    | .ok a =>
      let y := next a
      { events := x.events ++ y.events, outcome := y.outcome }

def stop (stopped : TokenStream) : Run α := { outcome := .error stopped }

def entering (x : Run α) : Run α := { x with events := .entered :: x.events }

/-- The step after tokens were taken. -/
def after (taken : List Token) (x : Run α) : Run α :=
  { x with events := taken.map .took ++ x.events }

def again (loop : Loop) (before after : TokenStream) (x : Run α) : Run α :=
  { x with events := .again loop before after :: x.events }

end Run

end Keywordless.Syntax
