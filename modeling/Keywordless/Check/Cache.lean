import Keywordless.Check.Payload
import Keywordless.Files.Basic
import Keywordless.Source.File
import Keywordless.Text.Digest

/-!
# The cache of results

Results are kept under a key that depends on nothing but the content of the file and the tool, so
that equal files share a result.
-/

namespace Keywordless

structure CacheKey where
  digest : Bytes
  deriving DecidableEq, Repr

namespace CacheKey

def ofFile (build : Build) (file : SourceFile) : CacheKey :=
  ⟨Digest.sha256 ([Payload.currentSchema.toUInt8, 0] ++ build.number ++ file.digest)⟩

def text (key : CacheKey) : Bytes := Bytes.hex key.digest

end CacheKey

structure ResultStore (μ : Type → Type) where
  lookup : CacheKey → μ (Option Payload)
  keep : CacheKey → Payload → μ Unit

def ResultStore.forgetful {μ : Type → Type} [Monad μ] : ResultStore μ where
  lookup _ := pure none
  keep _ _ := pure ()

structure DiskCache where
  dir : Bytes

inductive CacheProblem where
  | unreadable (cause : FileError)
  | corrupt

namespace DiskCache

def resultsDir (c : DiskCache) : Bytes := Path.join [c.dir, "results"]

/-- The file of an entry. Entries are spread over directories by the start of their key. -/
def entryPath (c : DiskCache) (key : CacheKey) : Bytes :=
  Path.join [c.resultsDir, key.text.take 2, key.text ++ ".mp"]

variable {μ : Type → Type} [Monad μ] [FileAccess μ]

def openAt (dir : Bytes) : μ (Except FileError DiskCache) := do
  return (← FileAccess.makeDirectories dir).map fun _ => ⟨dir⟩

/-- The entry of a key, whatever its schema is. -/
def read (c : DiskCache) (key : CacheKey) (codec : PayloadCodec := .messagePack) :
    μ (Except CacheProblem (Option Payload)) := do
  match ← FileAccess.readFile (c.entryPath key) with
  | .error e => return if e.isNotFound then .ok none else .error (.unreadable e)
  | .ok bytes =>
    match codec.decode? bytes with
    | some p => return .ok (some p)
    | none => return .error .corrupt

def write (c : DiskCache) (key : CacheKey) (p : Payload) (codec : PayloadCodec := .messagePack) :
    μ (Except FileError Unit) := do
  let path := c.entryPath key
  match ← FileAccess.makeDirectories (Path.dir path) with
  | .error e => return .error e
  | .ok _ => FileAccess.writeFile path (codec.encode p)

def clear (c : DiskCache) : μ (Except FileError Unit) := do
  match ← FileAccess.lstat c.dir with
  | .error e => return if e.isNotFound then .ok () else .error e
  | .ok _ =>
    match ← FileAccess.removeAll c.dir with
    | .error e => return .error e
    | .ok _ => FileAccess.makeDirectories c.dir

/-- The cache as a store. Entries that cannot be used are as good as missing, and an entry that
cannot be written is not kept. -/
def store (c : DiskCache) (codec : PayloadCodec := .messagePack) : ResultStore μ where
  lookup key := do
    match ← c.read key codec with
    | .ok (some p) => return if p.isCurrent then some p else none
    | _ => return none
  keep key p := do
    let _ ← c.write key p codec

end DiskCache

end Keywordless
