import Keywordless.Project.Manifest

/-!
# New projects

A new project has a manifest and a source file with an empty `main`.
-/

namespace Keywordless

namespace Project

def firstSource : Bytes :=
  "// nkl hello world\nmain :: (args: [][^]u8) -> int \x7b\n\t0\n\x7d\n"

structure Created where
  root : Bytes
  manifest : Bytes
  main : Bytes
  /-- Whether the source file is new; an existing one is kept. -/
  createdMain : Bool

def packageName (dir : Bytes) : Bytes :=
  let name := Bytes.trim (Path.base dir)
  if name.isEmpty || name == ("." : Bytes) || name == ("/" : Bytes) then "nkl-project" else name

variable {μ : Type → Type} [Monad μ] [FileAccess μ]

private def prepare (dir : Bytes) : μ (Except ProjectProblem Unit) := do
  match ← FileAccess.stat dir with
  | .ok .directory => return .ok ()
  | .ok _ => return .error (.notDirectory dir)
  | .error e =>
    if !e.isNotFound then return .error (.failed e)
    match ← FileAccess.makeDirectories dir with
    | .ok _ => return .ok ()
    | .error e => return .error (.notCreated dir e)

private def writeMain (path : Bytes) : μ (Except ProjectProblem Bool) := do
  match ← FileAccess.stat path with
  | .ok _ => return .ok false
  | .error e =>
    if !e.isNotFound then return .ok false
    match ← FileAccess.writeFile path firstSource with
    | .ok _ => return .ok true
    | .error e => return .error (.mainNotWritten path e)

def init (build : Build) (dir : Bytes) : μ (Except ProjectProblem Created) := do
  if let .error e ← prepare dir then return .error e
  let manifest := Path.join [dir, Manifest.fileName]
  let main := Path.join [dir, "main" ++ sourceExt]
  if let .ok _ ← FileAccess.stat manifest then return .error (.alreadyInitialized manifest)
  let content := (ManifestConfig.forPackage build (packageName dir)).text
  if let .error e ← FileAccess.createFile manifest content then
    return .error (.manifestNotWritten e)
  match ← writeMain main with
  | .error e => return .error e
  | .ok createdMain => return .ok { root := dir, manifest, main, createdMain }

end Project

end Keywordless
