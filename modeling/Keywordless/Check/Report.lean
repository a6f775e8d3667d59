import Keywordless.Check.Sources
import Keywordless.Check.Worker
import Keywordless.Diagnostic.Render

/-!
# Reports on checked files

Checking what some roots stand for, and saying how it went.
-/

namespace Keywordless

inductive CheckProblem where
  | cancelled
  | noSources
  | failed (cause : FileError)

def CheckProblem.message : CheckProblem → Bytes
  | cancelled => "context canceled"
  | noSources => "no " ++ sourceExt ++ " files found"
  | failed cause => cause.message

/-- The files that some roots stand for; there has to be one. -/
def Sources.required {μ : Type → Type} [Monad μ] [FileAccess μ] (roots : List Bytes) :
    μ (Except CheckProblem (List Bytes)) := do
  match ← Sources.expand roots with
  | .error e => return .error (.failed e)
  | .ok [] => return .error .noSources
  | .ok paths => return .ok paths

namespace CheckReport

def errorCount (results : List CheckResult) : Nat :=
  (results.map (·.bag.errorCount)).foldl (· + ·) 0

def failedCount (results : List CheckResult) : Nat := results.countP (·.bag.errorCount > 0)

private def resultJson (r : CheckResult) : Json :=
  .record [
    .field "path" (.str r.path),
    .field "cached" (.bool r.cached),
    .field "diagnostics" (Report.json r.files { positions := true, notes := true } r.bag.items)]

def json (results : List CheckResult) : Json :=
  .record [
    .field "files" (.arr (results.map resultJson)),
    .field "failed" (.nat (results.countP (·.bag.hasErrors)))]

def summary (results : List CheckResult) : Bytes :=
  let total := results.length
  let word : Bytes := if total = 1 then "file" else "files"
  "checked " ++ Bytes.ofNat total ++ " " ++ word ++ ", " ++ Bytes.ofNat (failedCount results) ++
    " failed\n"

end CheckReport

namespace Checker

variable {μ : Type → Type} [Monad μ] [FileAccess μ] [Clock μ]

def checkUnless (c : Checker μ) (cancelled : Bool) (log : TraceLog) (paths : List Bytes) :
    μ (Except CheckProblem (List CheckResult) × TraceLog) := do
  if cancelled && !paths.isEmpty then return (.error .cancelled, log)
  let (results, log) ← c.checkFiles log paths
  return (.ok results, log)

end Checker

end Keywordless
