import Keywordless.Trace.Log

/-!
# Phase timers

A timer keeps the phases of one compilation. Each phase is also a span of the trace.
-/

namespace Keywordless

structure Phase where
  name : Bytes
  note : Bytes := []
  nanos : Nat := 0
  span : TraceSpan := {}

/-- What remains of a phase when its timer is gone. -/
structure PhaseTime where
  name : Bytes
  note : Bytes := []
  nanos : Nat := 0
  deriving DecidableEq, Repr

def PhaseTime.total (phases : List PhaseTime) : Nat := (phases.map (·.nanos)).foldl (· + ·) 0

structure Timer where
  phases : List Phase := []
  parent : Nat := 0

namespace Timer

def start (t : Timer) (log : TraceLog) (name : Bytes) : Timer × TraceLog :=
  let (span, log) := log.opened .pass name t.parent
  ({ t with phases := t.phases ++ [{ name, span := { span with since := log.now } }] }, log)

def stop (t : Timer) (log : TraceLog) (position : Nat) (note : Bytes) : Timer × TraceLog :=
  match t.phases[position]? with
  | some p =>
    let p := { p with note, nanos := (log.now - p.span.since).toNat }
    ({ t with phases := t.phases.set position p }, log.closed p.span note)
  | none => (t, log)

def spanId (t : Timer) (position : Nat) : Nat :=
  match t.phases[position]? with
  | some p => p.span.id
  | none => 0

def report (t : Timer) : List PhaseTime := t.phases.map fun p => ⟨p.name, p.note, p.nanos⟩

private def row (name note : Bytes) (nanos : Nat) : Bytes :=
  "  " ++ Bytes.padRight 12 name ++ " " ++ Bytes.padLeft 7 (Clock.milliseconds 2 nanos) ++ " ms" ++
    Bytes.enclosed "  // " note [] ++ [Bytes.newline]

def summary (t : Timer) : Bytes :=
  "timings:\n" ++ t.phases.flatMap (fun p => row p.name p.note p.nanos) ++
    row "total" [] (PhaseTime.total t.report)

end Timer

end Keywordless
