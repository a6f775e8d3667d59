import Keywordless.Cli.Check
import Keywordless.Cli.Completion
import Keywordless.Cli.Inspect

/-!
# The tool

Runs the command that a command line asks for. The exit code is zero on success and one otherwise.
-/

namespace Keywordless

namespace Tool

def purpose : Bytes :=
  "nkl checks programs written in the no keywords language and prints their intermediate forms\n"

private def flagLine (f : Flag) : Bytes :=
  let usage := f.usage
  let indent := if f.letter?.isSome then 2 else 6
  Bytes.padRight 28 (Bytes.spaces indent ++ usage) ++ f.purpose ++ [Bytes.newline]

private def commandLine (c : Command) : Bytes :=
  "  " ++ Bytes.padRight 12 c.name ++ c.purpose ++ [Bytes.newline]

def help : Option Command → Bytes
  | some c =>
    c.purpose ++ "\n\nUsage:\n  nkl " ++ c.name ++ " [flags]\n\nFlags:\n" ++
      (c.flags ++ [Flag.helpFor c.name]).flatMap flagLine ++ "\nGlobal Flags:\n" ++
      Flag.global.flatMap flagLine
  | none =>
    purpose ++ "\nUsage:\n  nkl [command]\n\nAvailable Commands:\n" ++
      Command.all.flatMap commandLine ++
      "\nFlags:\n" ++ (Flag.global ++ [Flag.help, Flag.version]).flatMap flagLine

end Tool

namespace Command

variable {μ : Type → Type} [Monad μ] [Host μ]

private def runInit (build : Build) (s : FlagSettings) : CommandM μ Unit := do
  let wd ← liftM (FileAccess.workingDirectory : μ Bytes)
  let target : Bytes := match s.arguments with
    | [path] =>
      if path == Bytes.ofString "." then wd
      else if Path.isAbsolute path then path
      else Path.join [wd, path]
    | _ => wd
  let made ← CommandM.orFail .project (← liftM (Project.init build target : μ _))
  if !s.toggle .quiet then
    let line (lead name : Bytes) : Bytes := lead ++ name ++ [Bytes.newline]
    let root := (Path.relative? wd made.root).getD made.root
    let remark : Bytes := if made.createdMain then [] else " (existing)"
    CommandM.putOut (line "Initialized nkl project in " root ++
      line "  - " Manifest.fileName ++
      line "  - " (Path.base made.main ++ remark))

private def runVersion (build : Build) (s : FlagSettings) : CommandM μ Unit := do
  let g ← CommandM.orFail .unknownSwitch (SharedSettings.ofFlags s)
  let shown : Build.Shown := {
    color := g.color.isEnabled (← liftM (Host.outIsTerminal : μ Bool))
    commit := s.toggle .hash || s.toggle .full
    date := s.toggle .date || s.toggle .full }
  let format := Bytes.lower (s.text .format)
  if format == Bytes.ofString "pretty" then CommandM.putOut (build.pretty shown)
  else if format == Bytes.ofString "json" then CommandM.putOut (build.json shown).document
  else throw (.unsupportedFormat (s.text .format))

def run (build : Build) (s : FlagSettings) (tracing : Tracing) : Command → CommandM μ Unit
  | tokenize => Inspect.tokenize s
  | parse => Inspect.parse s
  | ir => Inspect.ir s tracing
  | check => do (← CheckPlan.ofFlags s build).run build tracing
  | init => runInit build s
  | version => runVersion build s
  | help => CommandM.putOut (Tool.help (s.arguments.head?.bind ofName?))
  | completion => return ()

end Command

namespace Tool

variable {μ : Type → Type} [Monad μ] [Host μ]

private def putProblem (message : Bytes) : μ Unit :=
  Host.putErr ("Error: " ++ message ++ [Bytes.newline])

/-- Runs a command with its profiles and its trace. Profiles that could not be started are not
stopped. -/
private def runCommand (build : Build) (command : Command) (s : FlagSettings) : μ Nat := do
  match ← (Profile.start s : CommandM μ Unit).run with
  | .error e =>
    putProblem e.message
    return 1
  | .ok _ =>
    let outcome ← ExceptT.run do command.run build s (← (Tracing.start s : CommandM μ Tracing))
    if let .error e := outcome then putProblem e.message
    Profile.stop s
    return if outcome matches .ok _ then 0 else 1

/-- Answers a shell. It has an answer even when there is a problem. -/
private def complete (described : Bool) (arguments : List Bytes) : μ Unit := do
  let word := arguments.getLast?.getD []
  let c : Completion ← match Completion.complete arguments.dropLast word with
    | .ok c => pure c
    | .error e => do
      Host.putErr ("[Debug] [Error] " ++ e.message ++ [Bytes.newline])
      pure {}
  Host.putOut (c.answer described)
  Host.putErr c.remark

def run (build : Build) (arguments : List Bytes) : μ Nat := do
  match Invocation.ofArguments arguments with
  | .error e =>
    putProblem e.message
    Host.putErr e.hint
    return 1
  | .ok .version =>
    Host.putOut ("nkl version " ++ build.number ++ [Bytes.newline])
    return 0
  | .ok (.help command) =>
    Host.putOut (help command)
    return 0
  | .ok (.complete described arguments) =>
    complete described arguments
    return 0
  | .ok (.run command s) => runCommand build command s

end Tool

end Keywordless
