import Keywordless.Check.Cache
import Keywordless.Compile.Timed

/-!
# Checking files

Each file is checked by a worker of its own, in four steps: read the file, look for a cached result,
compile, keep the result. Workers share nothing but the files and the cache.
-/

namespace Keywordless

inductive CheckStatus where
  | queued
  | working
  | done
  | error
  | cached
  deriving DecidableEq, Repr

namespace CheckStatus

def name : CheckStatus → Bytes
  | queued => "queued"
  | working => "working"
  | done => "done"
  | error => "error"
  | cached => "cached"

def ofNumber? : Nat → Option CheckStatus
  | 0 => some queued
  | 1 => some working
  | 2 => some done
  | 3 => some error
  | 4 => some cached
  | _ => none

def isFinal : CheckStatus → Bool
  | done | error | cached => true
  | queued | working => false

end CheckStatus

structure CheckEvent where
  file : Bytes
  stage : Stage := .queued
  /-- A status that is not known counts as none. -/
  status : Option CheckStatus
  deriving DecidableEq, Repr

structure CheckOptions where
  maxDiagnostics : Int := 100
  build : Build := {}

structure CheckResult where
  path : Bytes
  files : FileSet := {}
  bag : Bag
  cached : Bool := false
  phases : List PhaseTime := []

/-- How far the check of one file is. -/
inductive Worker where
  | waiting
  | loaded (files : FileSet) (file : SourceFile)
  | missed (files : FileSet) (file : SourceFile)
  | compiled (file : SourceFile) (outcome : Compilation)
  | finished (result : CheckResult)

namespace CheckResult

def unreadable (options : CheckOptions) (path : Bytes) (e : FileError) : CheckResult :=
  { path
    bag := (Bag.ofLimit options.maxDiagnostics).add
      (.error .loadFailed {} ("failed to load file: " ++ e.message)) }

def ofPayload (options : CheckOptions) (path : Bytes) (files : FileSet) (file : SourceFile)
    (p : Payload) : CheckResult :=
  { path, files, bag := p.restore file.id options.maxDiagnostics, cached := true,
    phases := p.phases.map (·.time) }

def ofCompilation (path : Bytes) (c : Compilation) : CheckResult :=
  { path, files := c.files, bag := c.bag, phases := c.timer.report }

def payload (options : CheckOptions) (path : Bytes) (c : Compilation) : Payload :=
  .ofBag options.build path c.bag c.timer.report

end CheckResult

namespace Worker

structure Progress where
  worker : Worker
  news : List CheckEvent := []
  log : TraceLog

variable {μ : Type → Type} [Monad μ] [FileAccess μ] [Clock μ]

def step (options : CheckOptions) (store : ResultStore μ) (path : Bytes) (log : TraceLog) :
    Worker → μ Progress
  | waiting => do
    match ← FileAccess.readFile path with
    | .error e =>
      return ⟨.finished (.unreadable options path e),
        [{ file := path, status := some .error }], log⟩
    | .ok content =>
      let (file, files) := FileSet.single path content
      return ⟨.loaded files file, [], log⟩
  | loaded files file => do
    match ← store.lookup (.ofFile options.build file) with
    | some p =>
      return ⟨.finished (.ofPayload options path files file p),
        [{ file := path, status := some .cached }], log⟩
    | none => return ⟨.missed files file, [], log⟩
  | missed files file => do
    let c ← compileTimed { maxDiagnostics := options.maxDiagnostics } files file log
    return ⟨.compiled file c,
      c.stages.map fun stage => { file := path, stage, status := some .working }, c.log⟩
  | compiled file c => do
    store.keep (.ofFile options.build file) (CheckResult.payload options path c)
    let status : CheckStatus := if c.bag.hasErrors then .error else .done
    return ⟨.finished (.ofCompilation path c), [{ file := path, status := some status }], log⟩
  | finished result => return ⟨.finished result, [], log⟩

/-- The result of a worker, without diagnostics as long as it is at work. -/
def result (path : Bytes) : Worker → CheckResult
  | finished result => result
  | _ => { path, bag := .ofLimit 0 }

def stepLimit : Nat := 4

def run (options : CheckOptions) (store : ResultStore μ) (tell : CheckEvent → μ Unit)
    (path : Bytes) : Nat → TraceLog → Worker → μ (Worker × TraceLog)
  | 0, log, worker => return (worker, log)
  | steps + 1, log, worker => do
    let p ← worker.step options store path log
    p.news.forM tell
    run options store tell path steps p.log p.worker

end Worker

structure Checker (μ : Type → Type) where
  options : CheckOptions := {}
  store : ResultStore μ
  tell : CheckEvent → μ Unit

namespace Checker

variable {μ : Type → Type} [Monad μ] [FileAccess μ] [Clock μ]

def checkFile (c : Checker μ) (log : TraceLog) (path : Bytes) : μ (CheckResult × TraceLog) := do
  c.tell { file := path, status := some .queued }
  let (worker, log) ← Worker.run c.options c.store c.tell path Worker.stepLimit log .waiting
  return (worker.result path, log)

/-- Checks files, each of them a program of its own. The results are in the order of the files. -/
def checkFiles (c : Checker μ) (log : TraceLog) : List Bytes → μ (List CheckResult × TraceLog)
  | [] => return ([], log)
  | path :: rest => do
    let (result, log) ← c.checkFile log path
    let (results, log) ← c.checkFiles log rest
    return (result :: results, log)

end Checker

end Keywordless
