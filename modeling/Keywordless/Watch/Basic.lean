import Keywordless.Check.Sources
import Keywordless.Files.Change

/-!
# Watching source files

A watcher observes the entries of some directories and reports which source files changed.
-/

namespace Keywordless

structure Watcher where
  files : List Bytes := []
  roots : List Bytes := []
  watched : List Bytes := []

namespace Watcher

/-- Whether a change of a path is reported: changes of the roots that are files, and of the source
files below the others. -/
def isRelevant (w : Watcher) (path : Bytes) : Bool :=
  w.files.contains path ||
    (Bytes.endsWith path sourceExt &&
      w.roots.any fun root => Bytes.startsWith path (root ++ [Path.slash]))

/-- Whether news reach the watcher: those of entries, and a watched directory's own end. -/
def observes (w : Watcher) (news : FileNews) : Bool :=
  w.watched.contains (Path.dir news.path) ||
    match news with
    | .removed path | .moved path => w.watched.contains path
    | _ => false

def forget (w : Watcher) : FileNews → Watcher
  | .removed path | .moved path =>
    { w with watched := w.watched.filter fun dir =>
        dir != path && !Bytes.startsWith dir (path ++ [Path.slash]) }
  | _ => w

def observe (w : Watcher) : List FileNews → Watcher × List FileNews
  | [] => (w, [])
  | news :: rest =>
    let (w', seen) := (w.forget news).observe rest
    (w', if w.observes news then news :: seen else seen)

variable {μ : Type → Type} [Monad μ] [FileAccess μ]

private def addTree (w : Watcher) (dir : Bytes) : μ (Except FileError Watcher) := do
  return (← Sources.directories dir).map fun dirs => { w with watched := w.watched ++ dirs }

private def addRoot (w : Watcher) (root : Bytes) : ExceptT FileError μ Watcher := do
  match ← ExceptT.mk (FileAccess.stat root) with
  | .directory => ExceptT.mk ({ w with roots := w.roots ++ [root] }.addTree root)
  | _ => return { w with files := w.files ++ [root], watched := w.watched ++ [Path.dir root] }

/-- The watcher of some files and directories. For a file its directory is watched, since editors
replace files. -/
def ofRoots (roots : List Bytes) : μ (Except FileError Watcher) := ExceptT.run do
  let wd ← liftM (FileAccess.workingDirectory : μ Bytes)
  roots.foldlM (fun w root => w.addRoot (Path.absolute wd root)) ({} : Watcher)

private def sorted (paths : List Bytes) : List Bytes :=
  paths.eraseDups.mergeSort fun a b => !Bytes.lt b a

/-- Takes in news that reached the watcher: a new directory is watched from now on, other changes
of relevant paths are reported. -/
private def takeIn : Watcher → List FileNews → μ (Watcher × List Bytes)
  | w, [] => return (w, [])
  | w, .touched _ :: rest => takeIn w rest
  | w, .created path :: rest => do
    match ← FileAccess.stat path with
    | .ok .directory =>
      match ← w.addTree path with
      | .ok w => takeIn w rest
      | .error _ => takeIn w rest
    | _ => report w path rest
  | w, .written path :: rest => report w path rest
  | w, .removed path :: rest => report w path rest
  | w, .moved path :: rest => report w path rest
where
  report (w : Watcher) (path : Bytes) (rest : List FileNews) : μ (Watcher × List Bytes) := do
    let (w', paths) ← takeIn w rest
    return (w', if w.isRelevant path then path :: paths else paths)

def changes (w : Watcher) (news : List FileNews) : μ (Watcher × List Bytes) := do
  let (w, seen) := w.observe news
  let (w, paths) ← w.takeIn seen
  return (w, sorted paths)

end Watcher

end Keywordless
