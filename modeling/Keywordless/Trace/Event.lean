import Keywordless.Text.Blank
import Keywordless.Text.Clock
import Keywordless.Text.Json
import Keywordless.Text.Quoted

/-!
# Trace events

Events of a run, coarse ones first: the whole command, a pass, a file, a node. A level says how fine
the events are that are emitted.
-/

namespace Keywordless

/-- What an event marks, by number. -/
structure TraceKind where
  number : Nat
  deriving DecidableEq, Repr

namespace TraceKind

def opening : TraceKind := ⟨1⟩

def closing : TraceKind := ⟨2⟩

def point : TraceKind := ⟨3⟩

def name (k : TraceKind) : Bytes :=
  match k.number with
  | 1 => "begin"
  | 2 => "end"
  | 3 => "point"
  | _ => "unknown"

def sign (k : TraceKind) : Bytes :=
  match k.number with
  | 1 => "→ "
  | 2 => "← "
  | 3 => "• "
  | _ => []

end TraceKind

/-- How fine an event is: the larger the rank, the finer. -/
structure TraceScope where
  rank : Nat
  deriving DecidableEq, Repr

namespace TraceScope

def command : TraceScope := ⟨1⟩
def pass : TraceScope := ⟨2⟩
def file : TraceScope := ⟨3⟩
def node : TraceScope := ⟨4⟩

def name (s : TraceScope) : Bytes :=
  match s.rank with
  | 1 => "driver"
  | 2 => "pass"
  | 3 => "file"
  | 4 => "node"
  | _ => "unknown"

end TraceScope

structure TraceLevel where
  rank : Nat
  deriving DecidableEq, Repr

namespace TraceLevel

def off : TraceLevel := ⟨0⟩
def error : TraceLevel := ⟨1⟩
def phase : TraceLevel := ⟨2⟩
def detail : TraceLevel := ⟨3⟩
def debug : TraceLevel := ⟨4⟩

def name (l : TraceLevel) : Bytes :=
  match l.rank with
  | 0 => "off"
  | 1 => "error"
  | 2 => "phase"
  | 3 => "detail"
  | 4 => "debug"
  | _ => "unknown"

def emits (l : TraceLevel) (scope : TraceScope) : Bool :=
  if l = phase then scope.rank ≤ TraceScope.pass.rank
  else if l = detail then scope.rank ≤ TraceScope.file.rank
  else l = debug

def isEnabled (l : TraceLevel) : Bool := l.rank > 0

structure Unknown where
  name : Bytes

def Unknown.message (e : Unknown) : Bytes :=
  "invalid trace level: " ++ Quoted.text e.name ++ " (expected: off|error|phase|detail|debug)"

/-- The level of a name, in capitals or not. The empty name means that nothing is traced. -/
def ofName (name : Bytes) : Except Unknown TraceLevel :=
  let lowered := Bytes.lower name
  if lowered.isEmpty then .ok off
  else
    match [off, error, phase, detail, debug].find? fun l => l.name == lowered with
    | some level => .ok level
    | none => .error ⟨name⟩

end TraceLevel

/-- One event. The span number of an instant is zero, and so is the parent of a root. -/
structure TraceEvent where
  seq : Nat
  kind : TraceKind
  scope : TraceScope
  span : Nat
  parent : Nat
  name : Bytes
  detail : Bytes := []
  micros : Int := 0
  nanos : Int := 0

namespace TraceEvent

def json (e : TraceEvent) : Json :=
  let micros := e.nanos.tdiv 1000
  .record [
    .field "time" (.str (Clock.stamp e.micros)),
    .field "seq" (.nat e.seq),
    .field "kind" (.str e.kind.name),
    .field "scope" (.str e.scope.name),
    .optionalNat "span_id" e.span,
    .optionalNat "parent_id" e.parent,
    .field "name" (.str e.name),
    .optionalStr "detail" e.detail,
    .fieldIf (micros != 0) "us" (.num micros)]

def line (e : TraceEvent) : Bytes :=
  "[" ++ Bytes.padLeft 6 (Bytes.ofNat e.seq) ++ "] " ++ Bytes.padRight 6 e.scope.name ++ " " ++
    e.kind.sign ++ e.name ++ Bytes.enclosed " (" e.detail ")" ++
    (if e.kind = .closing then 0x20 :: Clock.duration e.nanos else []) ++ [Bytes.newline]

end TraceEvent

inductive TraceFormat where
  | text
  | ndjson
  deriving DecidableEq, Repr

def TraceEvent.text (e : TraceEvent) : TraceFormat → Bytes
  | .text => e.line
  | .ndjson => e.json.line

end Keywordless
