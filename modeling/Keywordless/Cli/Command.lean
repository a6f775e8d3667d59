import Keywordless.Cli.Flag
import Keywordless.Text.Blank

/-!
# Commands

The commands of the tool, their flags, and how a command line is taken apart.
-/

namespace Keywordless

namespace Flag

def color : Flag := ⟨"color", .text "auto", "colorize output (auto|on|off)"⟩
def quiet : Flag := ⟨"quiet", .toggle, "suppress non-essential output"⟩
def timings : Flag := ⟨"timings", .toggle, "show timing information"⟩
def maxDiagnostics : Flag :=
  ⟨"max-diagnostics", .integer 100, "maximum number of diagnostics to show"⟩
def trace : Flag := ⟨"trace", .text "off", "trace level (off|error|phase|detail|debug)"⟩
def traceOut : Flag :=
  ⟨"trace-out", .text [], "trace output file (- or empty for stderr, *.ndjson for NDJSON)"⟩
def cpuProfile : Flag := ⟨"cpu-profile", .text [], "write a CPU profile to file"⟩
def memProfile : Flag := ⟨"mem-profile", .text [], "write a heap profile to file on exit"⟩
def runtimeTrace : Flag := ⟨"runtime-trace", .text [], "write a Go runtime trace to file"⟩

def global : FlagTable :=
  [color, quiet, timings, maxDiagnostics, trace, traceOut, cpuProfile, memProfile, runtimeTrace]

def helpFor (name : Bytes) : Flag := ⟨"help", .toggle (some 0x68), "help for " ++ name⟩
def help : Flag := helpFor "nkl"
def version : Flag := ⟨"version", .toggle (some 0x76), "version for nkl"⟩
def format : Flag := ⟨"format", .text "pretty", "output format (pretty|json)"⟩
def reportFormat : Flag := { format with purpose := "diagnostics format (pretty|json)" }
def dumpFormat : Flag := { format with purpose := "output format (pretty|json|yaml)" }
def entry : Flag := ⟨"entry", .toggle, "check the main entry point"⟩
def jobs : Flag := ⟨"jobs", .integer 0, "max parallel files (0=auto)"⟩
def ui : Flag := ⟨"ui", .text "auto", "progress UI (auto|on|off)"⟩
def watch : Flag := ⟨"watch", .toggle, "re-check when sources change"⟩
def noCache : Flag := ⟨"no-cache", .toggle, "ignore and do not update the result cache"⟩
def clearCache : Flag := ⟨"clear-cache", .toggle, "drop cached results before checking"⟩
def hash : Flag := ⟨"hash", .toggle, "include git commit hash"⟩
def date : Flag := ⟨"date", .toggle, "include build timestamp"⟩
def full : Flag := ⟨"full", .toggle, "show every recorded bit of build metadata"⟩
def noDescriptions : Flag := ⟨"no-descriptions", .toggle, "disable completion descriptions"⟩

end Flag

inductive ArgumentRule where
  | any
  | exactly (count : Nat)
  | atMost (count : Nat)
  | atLeast (count : Nat)
  deriving DecidableEq, Repr

def ArgumentRule.allows : ArgumentRule → Nat → Bool
  | any, _ => true
  | exactly n, count => count == n
  | atMost n, count => count ≤ n
  | atLeast n, count => n ≤ count

inductive Command where
  | tokenize
  | parse
  | ir
  | check
  | init
  | version
  | help
  | completion
  deriving DecidableEq, Repr

namespace Command

def all : List Command := [tokenize, parse, ir, check, init, version, help, completion]

def name : Command → Bytes
  | tokenize => "tokenize"
  | parse => "parse"
  | ir => "ir"
  | check => "check"
  | init => "init"
  | version => "version"
  | help => "help"
  | completion => "completion"

def purpose : Command → Bytes
  | tokenize => "Tokenize an nkl source file"
  | parse => "Parse an nkl source file and print its syntax tree"
  | ir => "Bind an nkl source file and dump the bound graph"
  | check => "Bind nkl programs and report diagnostics"
  | init => "Initialize a new nkl project"
  | version => "Show the nkl version"
  | help => "Help about any command"
  | completion => "Generate the autocompletion script for the specified shell"

def flags : Command → FlagTable
  | tokenize => [.format]
  | parse => [.reportFormat]
  | ir => [.dumpFormat, .entry]
  | check => [.format, .jobs, .ui, .watch, .noCache, .clearCache]
  | version => [.hash, .date, .full, .format]
  | init | help | completion => []

def table (c : Command) : FlagTable := c.flags ++ Flag.global ++ [.helpFor c.name]

def argumentRule : Command → ArgumentRule
  | tokenize | parse | ir => .exactly 1
  | init => .atMost 1
  | check | version | help | completion => .any

def ofName? (name : Bytes) : Option Command := all.find? fun c => c.name == name

def suggested : List Command := all.filter (· != help)

end Command

inductive UsageProblem where
  | unknownCommand (name : Bytes)
  | badFlag (problem : FlagProblem)
  | wrongCount (rule : ArgumentRule) (count : Nat)

namespace EditDistance

/-- The next row of the table of distances: `above` is the row above from the current column on,
`left` the entry to the left and `corner` the one above that. -/
private def nextRow (b : UInt8) (corner left : Nat) : Bytes → List Nat → List Nat
  | c :: target, up :: above =>
    let here := if b = c then corner else min (min up left) corner + 1
    here :: nextRow b up here target above
  | _, _ => []

/-- The number of bytes to insert, to erase or to change that lead from one text to another. -/
def distance (source target : Bytes) : Nat :=
  let first := List.range (target.length + 1)
  let last := source.foldl (fun (row : List Nat) b =>
    match row with
    | corner :: above => (corner + 1) :: nextRow b corner (corner + 1) target above
    | [] => []) first
  last.getLast?.getD 0

end EditDistance

def Command.suggestions (typed : Bytes) : List Bytes :=
  let typed := Bytes.lower typed
  (suggested.map name).filter fun n =>
    EditDistance.distance typed n ≤ 2 || Bytes.startsWith n typed

private def ArgumentRule.message (count : Nat) : ArgumentRule → Bytes
  | any => []
  | exactly n => "accepts " ++ Bytes.ofNat n ++ " arg(s), received " ++ Bytes.ofNat count
  | atMost n => "accepts at most " ++ Bytes.ofNat n ++ " arg(s), received " ++ Bytes.ofNat count
  | atLeast n =>
    "requires at least " ++ Bytes.ofNat n ++ " arg(s), only received " ++ Bytes.ofNat count

def UsageProblem.message : UsageProblem → Bytes
  | unknownCommand name =>
    "unknown command " ++ Quoted.text name ++ " for " ++ Quoted.text "nkl" ++
      Bytes.enclosed "\n\nDid you mean this?\n"
        ((Command.suggestions name).flatMap fun s => 0x09 :: s ++ [Bytes.newline]) []
  | badFlag problem => problem.message
  | wrongCount rule count => rule.message count

def UsageProblem.hint : UsageProblem → Bytes
  | unknownCommand _ => "Run 'nkl --help' for usage.\n"
  | _ => []

inductive Invocation where
  | run (command : Command) (settings : FlagSettings)
  | help (command : Option Command)
  | version
  | complete (described : Bool) (arguments : List Bytes)

namespace Invocation

/-- Whether the next argument is taken for the value of this one: it is so for every flag that is
not known to be a toggle. -/
private def takesNext (argument : Bytes) : Bool :=
  let isToggle (f : Option Flag) : Bool := f.any Flag.isToggle
  if argument.any (· == 0x3D) then false
  else
    match argument with
    | 0x2D :: 0x2D :: name => !isToggle (Flag.global.find? name)
    | [0x2D, letter] => !isToggle (Flag.global.findLetter? letter)
    | _ => false

private def isWord (argument : Bytes) : Bool := !argument.isEmpty && argument.head? != some 0x2D

private def isDashes (argument : Bytes) : Bool := argument == ("--" : Bytes)

/-- The first word that is neither a flag nor the value of one. Nothing is looked for once fewer
than two arguments follow a flag with a value. -/
def firstWord? (skip : Bool) : List Bytes → Option Bytes
  | [] => none
  | argument :: rest =>
    if skip then firstWord? false rest
    else if isDashes argument then none
    else if takesNext argument then
      if rest.length ≤ 1 then none else firstWord? true rest
    else if isWord argument then some argument
    else firstWord? false rest

def without (word : Bytes) (skip : Bool) : List Bytes → List Bytes
  | [] => []
  | argument :: rest =>
    if skip then argument :: without word false rest
    else if isDashes argument then argument :: rest
    else if takesNext argument then argument :: without word true rest
    else if argument == word then rest
    else argument :: without word false rest

private def settings (table : FlagTable) (arguments : List Bytes) :
    Except UsageProblem FlagSettings :=
  (FlagSettings.ofArguments table arguments).mapError .badFlag

private def bare (arguments : List Bytes) : Except UsageProblem Invocation := do
  let s ← settings (Flag.global ++ [.help, .version]) arguments
  return if !s.toggle .help && s.toggle .version then .version else .help none

private def ofCommand (command : Command) (arguments : List Bytes) :
    Except UsageProblem Invocation := do
  let s ← settings command.table arguments
  if s.toggle .help || command == .completion then return .help command
  if command.argumentRule.allows s.arguments.length then return .run command s
  throw (.wrongCount command.argumentRule s.arguments.length)

def completeWord : Bytes := "__complete"

def completeBareWord : Bytes := "__completeNoDesc"

def asksCompletion? (word : Bytes) : Option Bool :=
  if word == completeWord then some true
  else if word == completeBareWord then some false
  else none

private def ofCompletion (described : Bool) (arguments : List Bytes) :
    Except UsageProblem Invocation :=
  let rule : ArgumentRule := .atLeast 1
  if rule.allows arguments.length then .ok (.complete described arguments)
  else .error (.wrongCount rule arguments.length)

def ofArguments (arguments : List Bytes) : Except UsageProblem Invocation :=
  match firstWord? false arguments with
  | none => bare arguments
  | some word =>
    match Command.ofName? word, asksCompletion? word with
    | some command, _ => ofCommand command (without word false arguments)
    | none, some described => ofCompletion described (without word false arguments)
    | none, none => .error (.unknownCommand word)

end Invocation

end Keywordless
