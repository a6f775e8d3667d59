import Keywordless.Check.Report
import Keywordless.Cli.Command
import Keywordless.Cli.Host
import Keywordless.Cli.Switch
import Keywordless.Project.Init

/-!
# What commands print

The settings that all commands share, the errors that end a command, and diagnostics and timings on
the error output.
-/

namespace Keywordless

inductive CommandProblem where
  /-- The diagnostics that were printed hold so many errors. -/
  | diagnostics (errors : Nat)
  | unknownFormat (name : Bytes)
  | unsupportedFormat (name : Bytes)
  | unknownSwitch (cause : Switch.Unknown)
  | tokenizing (cause : FileError)
  | parsing (cause : FileError)
  | compiling (cause : FileError)
  | project (cause : ProjectProblem)
  | noManifest (wd : Bytes)
  | checking (cause : CheckProblem)
  | watching (cause : FileError)
  | unknownLevel (cause : TraceLevel.Unknown)
  | noTrace (cause : FileError)
  | noCpuProfile (cause : FileError)
  | noRuntimeTrace (cause : FileError)
  | fault (cause : Fault)

def CommandProblem.message : CommandProblem → Bytes
  | diagnostics n =>
    Bytes.ofNat n ++ if n = 1 then Bytes.ofString " error" else Bytes.ofString " errors"
  | unknownFormat name => "unknown format: " ++ name
  | unsupportedFormat name =>
    "unsupported format " ++ Quoted.text name ++ " (must be pretty or json)"
  | unknownSwitch cause => cause.message
  | tokenizing cause => "tokenization failed: " ++ cause.message
  | parsing cause => "parse failed: " ++ cause.message
  | compiling cause => "compile failed: " ++ cause.message
  | project cause => cause.message
  | noManifest wd =>
    "no " ++ Manifest.fileName ++ " found in " ++ wd ++ " or its parents; pass files or directories"
  | checking cause => cause.message
  | watching cause => cause.message
  | unknownLevel cause => "invalid trace level: " ++ cause.message
  | noTrace cause => "failed to create tracer: failed to open trace output: " ++ cause.message
  | noCpuProfile cause => "failed to start cpu profile: " ++ cause.message
  | noRuntimeTrace cause => "failed to start runtime trace: " ++ cause.message
  | fault cause => cause.message

abbrev CommandM (μ : Type → Type) := ExceptT CommandProblem μ

namespace CommandM

variable {μ : Type → Type} [Monad μ]

def orFail {α ε : Type} (problem : ε → CommandProblem) : Except ε α → CommandM μ α
  | .ok a => return a
  | .error e => throw (problem e)

variable [Host μ]

def putOut (text : Bytes) : CommandM μ Unit := liftM (Host.putOut text : μ Unit)

def putErr (text : Bytes) : CommandM μ Unit := liftM (Host.putErr text : μ Unit)

end CommandM

structure SharedSettings where
  color : Switch := .auto
  quiet : Bool := false
  timings : Bool := false
  maxDiagnostics : Int := 100
  limitGiven : Bool := false

namespace SharedSettings

def ofFlags (s : FlagSettings) : Except Switch.Unknown SharedSettings := do
  return {
    color := ← Switch.ofText "color" (s.text .color)
    quiet := s.toggle .quiet
    timings := s.toggle .timings
    maxDiagnostics := s.integer .maxDiagnostics
    limitGiven := s.isGiven .maxDiagnostics }

/-- A manifest sets the limit on diagnostics, unless the user did. -/
def withManifest (s : SharedSettings) (m : Manifest) : SharedSettings :=
  if s.limitGiven || m.config.maxDiagnostics ≤ 0 then s
  else { s with maxDiagnostics := m.config.maxDiagnostics }

variable {μ : Type → Type} [Monad μ] [Host μ]

def printDiagnostics (s : SharedSettings) (files : FileSet) (bag : Bag) : CommandM μ Unit := do
  let color := s.color.isEnabled (← liftM (Host.errIsTerminal : μ Bool))
  let style : ReportStyle := { color, context := 2, notes := true }
  CommandM.putErr (← CommandM.orFail .fault (Report.pretty files style bag.items))

end SharedSettings

namespace Style

variable {μ : Type → Type} [Monad μ] [Host μ]

/-- Whether colours are undone after a text that is written as it goes: not where the output is no
terminal, or where colours are not wanted. -/
def undoes : μ Bool := do
  let unwanted := !(← Host.environment "NO_COLOR").isEmpty ||
    (← Host.environment "TERM") == Bytes.ofString "dumb"
  return (← Host.outIsTerminal) && !unwanted

def streamed (s : Style) (enabled : Bool) (text : Bytes) : μ Bytes := do
  let ending : Bytes := if ← undoes then "\x1B[0m" else []
  return if enabled then s.opening ++ text ++ ending else text

end Style

namespace SharedSettings

variable {μ : Type → Type} [Monad μ] [Host μ]

def printTimings (s : SharedSettings) (label : Bytes) (phases : List PhaseTime) : μ Unit := do
  if s.timings then
    let color := s.color.isEnabled (← Host.errIsTerminal)
    let style : Style := ⟨[.faint]⟩
    let shown (nanos : Nat) : Bytes := Clock.milliseconds 1 nanos ++ " ms"
    let total := PhaseTime.total phases
    Host.putErr (← style.streamed color (label ++ " " ++ shown total ++ [Bytes.newline]))
    for p in phases do
      let line := "  " ++ Bytes.padRight 8 p.name ++ " " ++ shown p.nanos ++
        Bytes.enclosed " (" p.note ")"
      Host.putErr (style.paint color line ++ [Bytes.newline])

end SharedSettings

end Keywordless
