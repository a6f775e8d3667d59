import Keywordless.Cli.Run
import Std.Time.DateTime.Timestamp

/-!
# The command line

Runs the tool on the real system. Changes of files are found by looking at them again and again.
-/

namespace Keywordless.Main

private def stringOf (bytes : Bytes) : String :=
  (String.fromUTF8? ⟨bytes.toArray⟩).getD ""

private def located (path : Bytes) := do
  return (← IO.currentDir) / stringOf path

private def errorNumber : IO.Error → UInt32
  | .alreadyExists _ n _ | .otherError n _ | .resourceBusy n _ | .resourceVanished n _
  | .unsupportedOperation n _ | .hardwareFault n _ | .unsatisfiedConstraints n _
  | .illegalOperation n _ | .protocolError n _ | .timeExpired n _ | .interrupted _ n _
  | .noFileOrDirectory _ n _ | .invalidArgument _ n _ | .permissionDenied _ n _
  | .resourceExhausted _ n _ | .inappropriateType _ n _ | .noSuchThing _ n _ => n
  | .unexpectedEof | .userError _ => 0

/-- The cause of an error; some parts of the system count downward from zero. -/
private def causeOf (e : IO.Error) : FileCause :=
  let n := errorNumber e
  match if n < 0x80000000 then n else 0 - n with
  | 2 => .notFound
  | 13 => .denied
  | 17 => .alreadyExists
  | 20 => .notDirectory
  | 21 => .isDirectory
  | 22 => .invalid
  | 36 => .nameTooLong
  | 39 => .notEmpty
  | 40 => .tooManyLinks
  | _ => .other (Bytes.ofString (toString e))

private def trying {α : Type} (action path : Bytes) (work : IO α) : IO (Except FileError α) := do
  match ← work.toBaseIO with
  | .ok a => return .ok a
  | .error e => return .error ⟨action, path, causeOf e⟩

private def kindOf : IO.FS.FileType → FileKind
  | .dir => .directory
  | .symlink => .link
  | .file | .other => .file

private def stat (path : Bytes) : IO (Except FileError FileKind) :=
  trying "stat" path do return kindOf (← (← located path).metadata).type

private def lstat (path : Bytes) : IO (Except FileError FileKind) :=
  trying "lstat" path do return kindOf (← (← located path).symlinkMetadata).type

private def readFile (path : Bytes) : IO (Except FileError Bytes) := do
  if let .ok .directory ← stat path then return .error ⟨"read", path, .isDirectory⟩
  trying "open" path do return (← IO.FS.readBinFile (← located path)).toList

private def writeFile (mode : IO.FS.Mode) (path content : Bytes) : IO (Except FileError Unit) := do
  if let .ok .directory ← stat path then return .error ⟨"open", path, .isDirectory⟩
  trying "open" path do
    IO.FS.withFile (← located path) mode fun handle => handle.write ⟨content.toArray⟩

private def listDirectory (path : Bytes) : IO (Except FileError (List (Bytes × FileKind))) :=
  trying "open" path do
    let entries ← (← located path).readDir
    let kinds ← entries.toList.mapM fun e => do
      return (Bytes.ofString e.fileName, kindOf (← e.path.symlinkMetadata).type)
    return kinds.mergeSort fun a b => !Bytes.lt b.1 a.1

private def makeDirectories (path : Bytes) : IO (Except FileError Unit) := do
  for dir in Path.leading path do
    match ← stat dir with
    | .ok .directory => pure ()
    | .ok _ => return .error ⟨"mkdir", dir, .notDirectory⟩
    | .error _ =>
      if let .error e ← trying "mkdir" dir (do IO.FS.createDir (← located dir)) then return .error e
  return .ok ()

private def removeAll (path : Bytes) : IO (Except FileError Unit) := do
  match ← lstat path with
  | .error e => return if e.isNotFound then .ok () else .error e
  | .ok .directory => trying "unlinkat" path do IO.FS.removeDirAll (← located path)
  | .ok _ => trying "unlinkat" path do IO.FS.removeFile (← located path)

instance : FileAccess IO where
  workingDirectory := do return Bytes.ofString (← IO.currentDir).toString
  readFile := readFile
  writeFile := writeFile .write
  createFile := writeFile .writeNew
  stat := stat
  lstat := lstat
  listDirectory := listDirectory
  makeDirectories := makeDirectories
  removeAll := removeAll

instance : Clock IO where
  after a := do
    -- A reference to the value cannot be made before the value is there.
    let _ ← IO.mkRef a
    return (← Std.Time.Timestamp.now).toNanosecondsSinceUnixEpoch.val

private abbrev Snapshot := List (Bytes × IO.FS.SystemTime × UInt64)

private def snapshot (w : Watcher) : IO Snapshot := do
  let below ← w.roots.mapM fun root => do return ((← Sources.list root).toOption.getD [])
  (w.files ++ below.flatten).filterMapM fun path => do
    match ← (do (← located path).metadata : IO _).toBaseIO with
    | .ok m => return some (path, m.modified, m.byteSize)
    | .error _ => return none

private def differences (old new : Snapshot) : List Bytes :=
  let gone := old.filter (!new.contains ·)
  let come := new.filter (!old.contains ·)
  ((gone ++ come).map Prod.fst).eraseDups.mergeSort fun a b => !Bytes.lt b a

private partial def settled (w : Watcher) (seen : Snapshot) : IO Snapshot := do
  IO.sleep 150
  let new ← snapshot w
  if new == seen then return new else settled w new

/-- The number of lines of the last picture is kept, so that the next one can take its place. -/
private abbrev ScreenM := StateT Nat IO

private partial def watch {σ : Type} (w : Watcher) (action : σ → List Bytes → ScreenM σ) (state : σ)
    (seen : Snapshot) : ScreenM σ := do
  IO.sleep 100
  let new ← snapshot w
  if new == seen then watch w action state seen
  else
    let new ← settled w new
    watch w action (← action state (differences seen new)) new

private def put (stream : BaseIO IO.FS.Stream) (text : Bytes) : IO Unit := do
  let out ← stream
  out.write ⟨text.toArray⟩
  out.flush

instance : Host ScreenM where
  environment name := do return Bytes.ofString ((← IO.getEnv (stringOf name)).getD "")
  putOut text := put IO.getStdout text
  putErr text := put IO.getStderr text
  outIsTerminal := do (← IO.getStdout).isTty
  errIsTerminal := do (← IO.getStderr).isTty
  draw picture := do
    let lines ← get
    let back : Bytes := if lines = 0 then [] else "\x1B[" ++ Bytes.ofNat lines ++ "A\x1B[J"
    put IO.getStdout (back ++ picture)
    set (picture.count Bytes.newline)
  onChanges w action state := do watch w action state (← snapshot w)

end Keywordless.Main

def main (arguments : List String) : IO UInt32 := do
  let command : Keywordless.Main.ScreenM Nat :=
    Keywordless.Tool.run {} (arguments.map Keywordless.Bytes.ofString)
  let (code, _) ← command.run 0
  return code.toUInt32
