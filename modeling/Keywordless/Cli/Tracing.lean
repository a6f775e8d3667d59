import Keywordless.Cli.Output

/-!
# Traces and profiles of a command

Both are set up before a command runs. A trace is written while the command works; a heap profile is
made at its end.
-/

namespace Keywordless

/-- The trace of a command: where it goes, and how much of it was written. -/
structure Tracing where
  log : TraceLog := {}
  file : Option Bytes := none
  written : Nat := 0

namespace Tracing

def format (t : Tracing) : TraceFormat :=
  if t.file.any (Bytes.endsWith · ".ndjson") then .ndjson else .text

private def textOf (t : Tracing) (events : List TraceEvent) : Bytes :=
  events.flatMap (·.text t.format)

variable {μ : Type → Type} [Monad μ] [Host μ]

def start (s : FlagSettings) : CommandM μ Tracing := do
  let level ← CommandM.orFail .unknownLevel (TraceLevel.ofName (s.text .trace))
  let path := s.text .traceOut
  if level = .off then return {}
  if path.isEmpty || path == Bytes.ofString "-" then return { log := { level } }
  CommandM.orFail .noTrace (← liftM (FileAccess.writeFile path [] : μ _))
  return { log := { level }, file := some path }

def follow (t : Tracing) (log : TraceLog) : μ Tracing := do
  match t.file with
  | none => Host.putErr (t.textOf (log.events.drop t.written))
  | some path => let _ ← FileAccess.writeFile path (t.textOf log.events)
  return { t with log, written := log.events.length }

end Tracing

namespace Profile

variable {μ : Type → Type} [Monad μ] [Host μ]

private def make (path : Bytes) : μ (Except FileError Unit) :=
  if path.isEmpty then return .ok () else FileAccess.writeFile path []

def stop (s : FlagSettings) : μ Unit := do
  match ← make (s.text .memProfile) with
  | .ok _ => return ()
  | .error e =>
    Host.putErr ("profile: failed to write heap profile: " ++ e.message ++ [Bytes.newline])

/-- Starts the profiles that the flags ask for. When the second one fails, the first one ends as if
the command were over, in silence. -/
def start (s : FlagSettings) : CommandM μ Unit := do
  CommandM.orFail .noCpuProfile (← liftM (make (s.text .cpuProfile) : μ _))
  match ← liftM (make (s.text .runtimeTrace) : μ _) with
  | .ok _ => return ()
  | .error e =>
    let _ ← liftM (make (s.text .memProfile) : μ _)
    throw (.noRuntimeTrace e)

end Profile

end Keywordless
