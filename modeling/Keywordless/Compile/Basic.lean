import Keywordless.Binding.Binder
import Keywordless.Binding.Entry
import Keywordless.Diagnostic.Bag
import Keywordless.Source.Cursor
import Keywordless.Syntax.Parser
import Keywordless.Trace.Timer

/-!
# Compiling one file

A file is parsed, bound and checked for its entry, one stage after the other until one fails. What
went wrong stands in the bag of diagnostics.
-/

namespace Keywordless

inductive Stage where
  | queued
  | parse
  | bind
  | entry
  deriving DecidableEq, Repr

namespace Stage

def name : Stage → Bytes
  | queued => "queued"
  | parse => "parse"
  | bind => "bind"
  | entry => "entry"

/-- The stage of a number; numbers without a stage mean that the file waits. -/
def ofNumber : Nat → Stage
  | 1 => parse
  | 2 => bind
  | 3 => entry
  | _ => queued

end Stage

structure CompileOptions where
  maxDiagnostics : Int := 100
  skipEntry : Bool := false

/-- What is known about a file after some stages. -/
structure Compilation where
  options : CompileOptions
  files : FileSet
  file : SourceFile
  log : TraceLog
  span : TraceSpan
  timer : Timer
  bag : Bag
  stages : List Stage := []
  parsed : Option Syntax.Parsed := none
  world : Option (Universe FrameTable) := none
  root : Option NodeId := none
  main : Option NodeId := none
  running : Bool := true

def BindFailure.diagnostic (file : FileId) : BindFailure → Diagnostic
  | error e => e.diagnostic
  | fault f => Diagnostic.error .unknown ⟨file, 0, 0⟩ f.message

namespace Compilation

def ofFile (options : CompileOptions) (files : FileSet) (file : SourceFile) (log : TraceLog) :
    Compilation :=
  let (span, log) := log.opened .file ("file:" ++ file.path) 0
  { options, files, file, log, span, timer := { parent := span.id }
    bag := .ofLimit options.maxDiagnostics }

def enter (c : Compilation) (stage : Stage) : Compilation :=
  let (timer, log) := c.timer.start c.log stage.name
  { c with timer, log, stages := c.stages ++ [stage] }

private def lastPhase (c : Compilation) : Nat := c.timer.phases.length - 1

def leave (c : Compilation) (note : Bytes) : Compilation :=
  let (timer, log) := c.timer.stop c.log c.lastPhase note
  { c with timer, log }

def parse (c : Compilation) : Compilation :=
  let parsed := c.file.parse
  let bag := c.bag.addAll parsed.reports
  { c with parsed := some parsed, bag, running := !(parsed.failed || bag.hasErrors) }

def binding (c : Compilation) (world : Universe FrameTable) (action : BindM FrameTable NodeId)
    (keep : Compilation → NodeId → Compilation) : Compilation :=
  let (result, s) := action.exec { world, log := c.log, parent := c.timer.spanId c.lastPhase }
  let c := { c with world := some s.world, files := s.world.files, log := s.log }
  match result with
  | .ok id => keep c id
  | .error e => { c with bag := c.bag.add (e.diagnostic c.file.id), running := false }

section Binding

variable {c : Compilation} {world : Universe FrameTable} {action : BindM FrameTable NodeId}
  {keep : Compilation → NodeId → Compilation} {s : BindState FrameTable}

theorem binding_ok {id : NodeId}
    (h : action.exec ⟨world, c.log, c.timer.spanId (c.timer.phases.length - 1)⟩ = (.ok id, s)) :
    c.binding world action keep =
      keep { c with world := some s.world, files := s.world.files, log := s.log } id := by
  unfold binding lastPhase
  rw [h]

theorem binding_error {e : BindFailure}
    (h : action.exec ⟨world, c.log, c.timer.spanId (c.timer.phases.length - 1)⟩ = (.error e, s)) :
    c.binding world action keep =
      { c with
        world := some s.world, files := s.world.files, log := s.log
        bag := c.bag.add (e.diagnostic c.file.id), running := false } := by
  unfold binding lastPhase
  rw [h]

end Binding

def bind (c : Compilation) : Compilation :=
  match c.parsed with
  | some parsed =>
    c.binding (.ofFiles c.files) parsed.file.bind fun c id => { c with root := some id }
  | none => c

def checkEntry (c : Compilation) : Compilation :=
  match c.world with
  | some world => c.binding world (Entry.check c.file.id) fun c id => { c with main := some id }
  | none => c

def work (c : Compilation) : Stage → Compilation
  | .queued => c
  | .parse => c.parse
  | .bind => c.bind
  | .entry => c.checkEntry

def note (c : Compilation) : Stage → Bytes
  | .parse => Bytes.ofNat ((c.parsed.map fun p => p.file.items.length).getD 0) ++ " items"
  | .bind => Bytes.ofNat ((c.world.map fun u => u.graph.size).getD 0) ++ " nodes"
  | .queued | .entry => []

def needs (c : Compilation) (stage : Stage) : Bool :=
  c.running && !(c.options.skipEntry && stage == .entry)

/-- Goes through a stage, unless an earlier one failed. -/
def through (c : Compilation) (stage : Stage) : Compilation :=
  if c.needs stage then
    let c := (c.enter stage).work stage
    c.leave (c.note stage)
  else c

def finish (c : Compilation) : Compilation :=
  { c with log := c.log.closed c.span (Bytes.ofNat c.bag.size ++ " diagnostics") }

def plan : List Stage := [.parse, .bind, .entry]

/-- Whether every stage ran without errors. -/
def succeeded (c : Compilation) : Bool := c.root.isSome && !c.bag.hasErrors

end Compilation

def compile (options : CompileOptions) (files : FileSet) (file : SourceFile) (log : TraceLog) :
    Compilation :=
  (Compilation.plan.foldl Compilation.through (.ofFile options files file log)).finish

/-- Compiles a file of a set that a cursor can read. -/
def compileFile (options : CompileOptions) (files : FileSet) (file : SourceFile) (log : TraceLog) :
    Except Fault Compilation := do
  let _ ← Cursor.ofFile file
  return compile options files file log

end Keywordless
