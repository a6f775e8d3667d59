import Keywordless.Cli.Tracing
import Keywordless.Progress.View

/-!
# The check command

Checks the files that its arguments stand for, or the target of the nearest project, once or after
each change.
-/

namespace Keywordless

inductive CacheSetupProblem where
  | noHome
  | notOpened (cause : FileError)
  | notCleared (cause : FileError)

def CacheSetupProblem.message : CacheSetupProblem → Bytes
  | noHome => "$HOME is not defined"
  | notOpened cause => cause.message
  | notCleared cause => "failed to clear cache: " ++ cause.message

structure CheckPlan where
  shared : SharedSettings
  json : Bool
  ui : Switch
  watch : Bool
  noCache : Bool
  clearCache : Bool
  roots : List Bytes

namespace CheckPlan

variable {μ : Type → Type} [Monad μ] [Host μ]

private def cacheBase : μ (Except CacheSetupProblem Bytes) := do
  let base ← Host.environment "XDG_CACHE_HOME"
  if !base.isEmpty then return .ok base
  let home ← Host.environment "HOME"
  return if home.isEmpty then .error .noHome else .ok (Path.join [home, ".cache"])

/-- Opens the cache, if it is used. It is cleared on demand even if it is not used. -/
private def openCache (p : CheckPlan) : μ (Except CacheSetupProblem (Option DiskCache)) :=
  ExceptT.run do
    if p.noCache && !p.clearCache then return none
    let base ← ExceptT.mk cacheBase
    let opened ← liftM (DiskCache.openAt (Path.join [base, "nkl"]) : μ _)
    let cache ← ExceptT.mk (pure (opened.mapError .notOpened))
    if p.clearCache then
      let cleared ← liftM (cache.clear : μ _)
      ExceptT.mk (pure (cleared.mapError .notCleared))
    return if p.noCache then none else some cache

private def cache (p : CheckPlan) : μ (Option DiskCache) := do
  match ← p.openCache with
  | .ok cache => return cache
  | .error e =>
    if !p.shared.quiet then
      Host.putErr ("warning: result cache disabled: " ++ e.message ++ [Bytes.newline])
    return none

/-- The roots to check: the arguments, or the target of the nearest project. -/
private def resolveRoots (g : SharedSettings) (build : Build) (arguments : List Bytes) :
    CommandM μ (SharedSettings × List Bytes) := do
  let wd ← liftM (FileAccess.workingDirectory : μ Bytes)
  let manifest ← CommandM.orFail .project (← liftM (Manifest.load wd : μ _))
  if let some m := manifest then CommandM.orFail .project (m.checkCompiler build)
  let g := match manifest with
    | some m => g.withManifest m
    | none => g
  if !arguments.isEmpty then return (g, arguments)
  match manifest with
  | none => throw (.noManifest wd)
  | some m =>
    let (target, _) ← CommandM.orFail .project (← liftM (m.target : μ _))
    return (g, [target])

def ofFlags (s : FlagSettings) (build : Build) : CommandM μ CheckPlan := do
  let format := s.text .format
  if format != Bytes.ofString "pretty" && format != Bytes.ofString "json" then
    throw (.unknownFormat format)
  let ui ← CommandM.orFail .unknownSwitch (Switch.ofText "ui" (s.text .ui))
  let g ← CommandM.orFail .unknownSwitch (SharedSettings.ofFlags s)
  let (shared, roots) ← resolveRoots g build s.arguments
  return {
    shared, ui, roots
    json := format == Bytes.ofString "json"
    watch := s.toggle .watch
    noCache := s.toggle .noCache
    clearCache := s.toggle .clearCache }

private def checkDrawn (options : CheckOptions) (cache : Option DiskCache) (files : List Bytes)
    (log : TraceLog) : μ (List CheckResult × TraceLog) := do
  let checker : Checker (StateT Progress μ) := {
    options
    store := match cache with
      | some c => c.store
      | none => .forgetful
    tell := fun e => do
      modify (·.hear e)
      let p ← get
      StateT.lift (Host.draw p.current) }
  let (found, progress) ← (checker.checkFiles log files).run (Progress.ofFiles "nkl check" files)
  Host.draw (progress.update .done).current
  return found

private def checkQuietly (options : CheckOptions) (cache : Option DiskCache) (files : List Bytes)
    (log : TraceLog) : μ (List CheckResult × TraceLog) :=
  let checker : Checker μ := {
    options
    store := match cache with
      | some c => c.store
      | none => .forgetful
    tell := fun _ => return () }
  checker.checkFiles log files

private def print (p : CheckPlan) (results : List CheckResult) : CommandM μ Unit := do
  if p.json then CommandM.putOut (CheckReport.json results).document
  else
    for r in results do
      p.shared.printDiagnostics r.files r.bag
      liftM (p.shared.printTimings r.path r.phases : μ _)
    if !p.shared.quiet then
      let color := p.shared.color.isEnabled (← liftM (Host.outIsTerminal : μ Bool))
      let style : Style := ⟨[if CheckReport.failedCount results = 0 then .green else .red, .bold]⟩
      CommandM.putOut (← liftM (style.streamed color (CheckReport.summary results) : μ _))

/-- Checks everything once and prints the results. Errors in the files are a failure of the
command, but the trace goes on. -/
private def once (p : CheckPlan) (options : CheckOptions) (cache : Option DiskCache)
    (tracing : Tracing) : CommandM μ (Tracing × Except CommandProblem Unit) := do
  let files ← CommandM.orFail .checking (← liftM (Sources.required p.roots : μ _))
  let drawn := !p.json && !p.shared.quiet && files.length > 1 &&
    p.ui.isEnabled (← liftM (Host.outIsTerminal : μ Bool))
  let (results, log) ← liftM
    (if drawn then checkDrawn options cache files tracing.log
      else checkQuietly options cache files tracing.log : μ _)
  let tracing ← liftM (tracing.follow log : μ _)
  p.print results
  let errors := CheckReport.errorCount results
  return (tracing, if errors = 0 then .ok () else .error (.diagnostics errors))

private def again (p : CheckPlan) (options : CheckOptions) (cache : Option DiskCache)
    (tracing : Tracing) (changed : List Bytes) : μ Tracing := do
  if !p.shared.quiet then
    Host.putErr ("\n" ++ Bytes.ofNat changed.length ++ " file(s) changed, re-checking\n")
  match ← (p.once options cache tracing).run with
  | .ok (tracing, _) => return tracing
  | .error e =>
    Host.putErr ("check: " ++ e.message ++ [Bytes.newline])
    return tracing

def run (p : CheckPlan) (build : Build) (tracing : Tracing) : CommandM μ Unit := do
  let cache ← liftM (p.cache : μ _)
  let options : CheckOptions := { maxDiagnostics := p.shared.maxDiagnostics, build }
  let (tracing, verdict) ← p.once options cache tracing
  if !p.watch then CommandM.orFail id verdict
  else
    let watcher ← CommandM.orFail .watching (← liftM (Watcher.ofRoots p.roots : μ _))
    if !p.shared.quiet then CommandM.putErr "watching for changes, press Ctrl+C to stop\n"
    let _ ← liftM (Host.onChanges watcher (p.again options cache) tracing : μ _)

end CheckPlan

end Keywordless
