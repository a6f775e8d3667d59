import Keywordless.Compile.Timed
import Keywordless.Watch.Basic

/-!
# Hosts

What a command asks of the system it runs on, and a system as a value: a `World` has files, an
environment, and what was written so far.
-/

namespace Keywordless

class Host (μ : Type → Type) extends FileAccess μ, Clock μ where
  environment : Bytes → μ Bytes
  putOut : Bytes → μ Unit
  putErr : Bytes → μ Unit
  outIsTerminal : μ Bool
  errIsTerminal : μ Bool
  draw : Bytes → μ Unit
  /-- Calls an action on each batch of changes that a watcher reports, until the user stops it. -/
  onChanges : {σ : Type} → Watcher → (σ → List Bytes → μ σ) → σ → μ σ

structure World where
  files : FileTree
  environment : List (Bytes × Bytes) := []
  out : Bytes := []
  err : Bytes := []
  coming : List FileChange := []

namespace World

def onFiles {α : Type} (action : StateM FileTree α) : StateM World α := fun w =>
  let (a, files) := action w.files
  (a, { w with files })

instance : FileAccess (StateM World) where
  workingDirectory := onFiles FileAccess.workingDirectory
  readFile path := onFiles (FileAccess.readFile path)
  writeFile path content := onFiles (FileAccess.writeFile path content)
  createFile path content := onFiles (FileAccess.createFile path content)
  stat path := onFiles (FileAccess.stat path)
  lstat path := onFiles (FileAccess.lstat path)
  listDirectory path := onFiles (FileAccess.listDirectory path)
  makeDirectories path := onFiles (FileAccess.makeDirectories path)
  removeAll path := onFiles (FileAccess.removeAll path)

/-- Lets others make changes one after the other, each of which the program has time to notice. -/
private def meanwhile {σ : Type} (action : σ → List Bytes → StateM World σ) (state : σ) :
    Watcher → List FileChange → StateM World σ
  | _, [] => return state
  | watcher, change :: rest => do
    let news ← onFiles fun files => (files.change change).swap
    let (watcher, paths) ← watcher.changes news
    let state ← if paths.isEmpty then pure state else action state paths
    meanwhile action state watcher rest

instance : Host (StateM World) where
  environment name := fun w => ((w.environment.lookup name).getD [], w)
  putOut text := modify fun w => { w with out := w.out ++ text }
  putErr text := modify fun w => { w with err := w.err ++ text }
  outIsTerminal := return false
  errIsTerminal := return false
  draw _ := return ()
  onChanges watcher action state := do
    let world ← get
    set { world with coming := [] }
    meanwhile action state watcher world.coming

end World

end Keywordless
