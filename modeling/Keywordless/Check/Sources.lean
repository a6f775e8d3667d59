import Keywordless.Files.Basic
import Keywordless.Project.Manifest

/-!
# Finding source files

The source files under a directory, in byte order of their paths. Links are not followed.
-/

namespace Keywordless.Sources

variable {μ : Type → Type} [Monad μ] [FileAccess μ]

/-- No path has more names than this: a path has fewer than 4096 bytes. -/
private def depthLimit : Nat := 4096

/-- Collects from an entry, and from what is below it, all that `keep` accepts, parents first. -/
private def walk (keep : Bytes → FileKind → Bool) :
    Nat → Bytes → FileKind → ExceptT FileError μ (List Bytes)
  | 0, _, _ => return []
  | depth + 1, path, kind => do
    let own := if keep path kind then [path] else []
    if kind = .directory then
      let entries ← ExceptT.mk (FileAccess.listDirectory path)
      let found ← entries.mapM fun (name, kind) => walk keep depth (Path.join [path, name]) kind
      return own ++ found.flatten
    else return own

private def collect (keep : Bytes → FileKind → Bool) (root : Bytes) :
    μ (Except FileError (List Bytes)) := ExceptT.run do
  walk keep depthLimit root (← ExceptT.mk (FileAccess.lstat root))

def list (root : Bytes) : μ (Except FileError (List Bytes)) := do
  let found ← collect (fun path kind => kind != .directory && Bytes.endsWith path sourceExt) root
  return found.map fun paths => paths.mergeSort fun a b => !Bytes.lt b a

def directories (root : Bytes) : μ (Except FileError (List Bytes)) :=
  collect (fun _ kind => kind = .directory) root

/-- The files to check: a root that is a directory stands for the source files below it. -/
def expand (roots : List Bytes) : μ (Except FileError (List Bytes)) := ExceptT.run do
  let found ← roots.mapM fun root => do
    match ← ExceptT.mk (FileAccess.stat root) with
    | .directory => ExceptT.mk (list root)
    | _ => return [root]
  return found.flatten

end Keywordless.Sources
