import Keywordless.Path

/-!
# File access

What the program asks of a file system, and how a request can fail. The program is written against
`FileAccess`, so that the same code runs on the real file system and on a `FileTree` value.
-/

namespace Keywordless

inductive FileKind where
  | file
  | directory
  | link
  deriving DecidableEq, Repr

inductive FileCause where
  | notFound
  | notDirectory
  | isDirectory
  | alreadyExists
  | tooManyLinks
  | notEmpty
  | denied
  | nameTooLong
  | invalid
  | other (text : Bytes)
  deriving DecidableEq, Repr

def FileCause.text : FileCause → Bytes
  | notFound => "no such file or directory"
  | notDirectory => "not a directory"
  | isDirectory => "is a directory"
  | alreadyExists => "file exists"
  | tooManyLinks => "too many levels of symbolic links"
  | notEmpty => "directory not empty"
  | denied => "permission denied"
  | nameTooLong => "file name too long"
  | invalid => "invalid argument"
  | other text => text

/-- A failed request: what was tried, on which path, and why it failed. -/
structure FileError where
  action : Bytes
  path : Bytes
  cause : FileCause
  deriving DecidableEq, Repr

def FileError.message (e : FileError) : Bytes :=
  e.action ++ " " ++ e.path ++ ": " ++ e.cause.text

def FileError.isNotFound (e : FileError) : Bool := e.cause == .notFound

class FileAccess (m : Type → Type) where
  workingDirectory : m Bytes
  readFile : Bytes → m (Except FileError Bytes)
  writeFile : Bytes → Bytes → m (Except FileError Unit)
  createFile : Bytes → Bytes → m (Except FileError Unit)
  stat : Bytes → m (Except FileError FileKind)
  lstat : Bytes → m (Except FileError FileKind)
  listDirectory : Bytes → m (Except FileError (List (Bytes × FileKind)))
  makeDirectories : Bytes → m (Except FileError Unit)
  removeAll : Bytes → m (Except FileError Unit)

/-- A computation with a state of its own uses the files of the computation below it. -/
instance {σ : Type} {m : Type → Type} [Monad m] [FileAccess m] : FileAccess (StateT σ m) where
  workingDirectory := StateT.lift FileAccess.workingDirectory
  readFile path := StateT.lift (FileAccess.readFile path)
  writeFile path content := StateT.lift (FileAccess.writeFile path content)
  createFile path content := StateT.lift (FileAccess.createFile path content)
  stat path := StateT.lift (FileAccess.stat path)
  lstat path := StateT.lift (FileAccess.lstat path)
  listDirectory path := StateT.lift (FileAccess.listDirectory path)
  makeDirectories path := StateT.lift (FileAccess.makeDirectories path)
  removeAll path := StateT.lift (FileAccess.removeAll path)

end Keywordless
