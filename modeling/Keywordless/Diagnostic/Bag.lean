import Keywordless.Diagnostic.Basic

/-!
# Bags

A bounded collection of diagnostics in the order they were reported. What comes after the bag is
full is dropped.
-/

namespace Keywordless

structure Bag where
  limit : Nat
  items : List Diagnostic := []
  deriving Repr

namespace Bag

/-- An empty bag; it always has room for one diagnostic. -/
def ofLimit (limit : Int) : Bag := { limit := if limit ≤ 0 then 1 else limit.toNat }

def size (b : Bag) : Nat := b.items.length

def add (b : Bag) (d : Diagnostic) : Bag :=
  if b.items.length < b.limit then { b with items := b.items ++ [d] } else b

def isFull (b : Bag) : Bool := b.items.length ≥ b.limit

def addAll (b : Bag) (ds : List Diagnostic) : Bag := ds.foldl add b

def hasErrors (b : Bag) : Bool := b.items.any Diagnostic.isError

def hasWarnings (b : Bag) : Bool := b.items.any Diagnostic.isWarning

def errorCount (b : Bag) : Nat := b.items.countP (·.severity == .error)

/-- Takes in all of another bag; the limit grows where it has to. -/
def merge (b other : Bag) : Bag :=
  { limit := max b.limit (b.items.length + other.items.length), items := b.items ++ other.items }

/-- By file, start and stop of the span, then worst first, then by code. -/
def precedes (a b : Diagnostic) : Bool :=
  if a.primary.file ≠ b.primary.file then a.primary.file < b.primary.file
  else if a.primary.start ≠ b.primary.start then a.primary.start < b.primary.start
  else if a.primary.stop ≠ b.primary.stop then a.primary.stop < b.primary.stop
  else if a.severity ≠ b.severity then b.severity.rank < a.severity.rank
  else a.code.number < b.code.number

/-- Sorts, keeping the order of diagnostics that `precedes` does not tell apart. -/
def sort (b : Bag) : Bag :=
  { b with items := b.items.mergeSort fun x y => !precedes y x }

/-- The text by which diagnostics repeat each other: identifier and span. -/
def key (d : Diagnostic) : Bytes := d.code.id ++ ":" ++ d.primary.text

def dedupFrom (seen : List Bytes) : List Diagnostic → List Diagnostic
  | [] => []
  | d :: rest =>
    if seen.contains (key d) then dedupFrom seen rest else d :: dedupFrom (key d :: seen) rest

/-- Drops each diagnostic that repeats the identifier and span of an earlier one. -/
def dedup (b : Bag) : Bag := { b with items := dedupFrom [] b.items }

end Bag

end Keywordless
