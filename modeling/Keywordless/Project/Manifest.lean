import Keywordless.Files.Basic
import Keywordless.Path
import Keywordless.Text.Blank
import Keywordless.Text.Quoted
import Keywordless.Toml.Table
import Keywordless.Version.Build

/-!
# Project manifests

A manifest names a package and what to build. It stands at the root of the project.
-/

namespace Keywordless

def sourceExt : Bytes := ".nkl"

structure ManifestConfig where
  name : Bytes := []
  compiler : Bytes := []
  main : Bytes := []
  maxDiagnostics : Int := 0

inductive ProjectProblem where
  | unreadable (manifest : Bytes)
  | missingPackage (manifest : Bytes)
  | missingName (manifest : Bytes)
  | missingMain (manifest : Bytes)
  | negativeLimit (manifest : Bytes)
  | unknownKey (manifest : Bytes) (key : Toml.Key)
  | badConstraint (manifest constraint : Bytes)
  | unsatisfied (manifest number constraint : Bytes)
  | targetMissing (manifest target : Bytes)
  | targetUnreadable (manifest : Bytes) (cause : FileError)
  | targetNotSource (manifest : Bytes)
  | searchFailed (candidate : Bytes) (cause : FileError)
  | notDirectory (path : Bytes)
  | notCreated (path : Bytes) (cause : FileError)
  | alreadyInitialized (manifest : Bytes)
  | manifestNotWritten (cause : FileError)
  | mainNotWritten (path : Bytes) (cause : FileError)
  | failed (cause : FileError)

def ProjectProblem.message : ProjectProblem → Bytes
  | unreadable m => m ++ ": failed to parse TOML"
  | missingPackage m => m ++ ": missing [package]"
  | missingName m => m ++ ": missing [package].name"
  | missingMain m => m ++ ": missing [build].main"
  | negativeLimit m => m ++ ": [build].max_diagnostics must not be negative"
  | unknownKey m key => m ++ ": unknown key " ++ key.text
  | badConstraint m c => m ++ ": invalid [package].compiler " ++ Quoted.text c
  | unsatisfied m number c =>
    m ++ ": nkl " ++ number ++ " does not satisfy [package].compiler " ++ Quoted.text c
  | targetMissing m target => m ++ ": [build].main path does not exist: " ++ target
  | targetUnreadable m cause => m ++ ": failed to stat [build].main: " ++ cause.message
  | targetNotSource m => m ++ ": [build].main must be a " ++ sourceExt ++ " file or directory"
  | searchFailed candidate cause =>
    "failed to stat " ++ Quoted.text candidate ++ ": " ++ cause.message
  | notDirectory path => Quoted.text path ++ " is not a directory"
  | notCreated path cause =>
    "failed to create directory " ++ Quoted.text path ++ ": " ++ cause.message
  | alreadyInitialized m => "project already initialized: " ++ m ++ " exists"
  | manifestNotWritten cause => "failed to write manifest: " ++ cause.message
  | mainNotWritten path cause => "failed to write " ++ path ++ ": " ++ cause.message
  | failed cause => cause.message

namespace ManifestConfig

/-- Case does not count in the names of fields, and two letters outside ASCII are forms of ASCII
ones. -/
private def foldChar (c : Char) : Char :=
  if c.toNat = 0x212A then 'k' else if c.toNat = 0x017F then 's' else c.toLower

private def isField (field : String) (key : Bytes) : Bool :=
  (Utf8.chars key).map foldChar == field.toList

/-- The value of a field that has to be of one kind; nothing if it is of another. -/
private def field? {α : Type} (t : Toml.Table) (field : String) (missing : α)
    (read : α → Toml.Value → Option α) : Option α :=
  (t.filter fun (key, _) => isField field key).foldlM (fun old (_, v) => read old v) missing

private def text? (t : Toml.Table) (field : String) : Option Bytes :=
  field? t field [] fun _ v => match v with
    | .text s => some s
    | _ => none

private def integer? (t : Toml.Table) (field : String) : Option Int :=
  field? t field 0 fun _ v => match v with
    | .integer n => some n
    | _ => none

private def section? (t : Toml.Table) (field : String) : Option Toml.Table :=
  field? t field [] fun old v => match v with
    | .table inner => some (old ++ inner)
    | _ => none

private def decode? (root : Toml.Table) : Option ManifestConfig := do
  let package ← section? root "package"
  let build ← section? root "build"
  return {
    name := ← text? package "name"
    compiler := ← text? package "compiler"
    main := ← text? build "main"
    maxDiagnostics := ← integer? build "max_diagnostics" }

private def isKnown : Toml.Key → Bool
  | [s] => isField "package" s || isField "build" s
  | [s, f] =>
    (isField "package" s && (isField "name" f || isField "compiler" f)) ||
      (isField "build" s && (isField "main" f || isField "max_diagnostics" f))
  | _ => false

private def isBlankText (text : Bytes) : Bool := (Bytes.trim text).isEmpty

private def hasMember (t : Toml.Table) (key : Toml.Key) : Bool :=
  match key.getLast? with
  | none => false
  | some name =>
    match plainTableAt? key.dropLast t with
    | some inner => (inner.lookup name).isSome
    | none => false
where
  plainTableAt? : Toml.Key → Toml.Table → Option Toml.Table
    | [], t => some t
    | name :: rest, t =>
      match t.lookup name with
      | some (.table inner) => plainTableAt? rest inner
      | _ => none

def ofText (path content : Bytes) : Except ProjectProblem ManifestConfig := do
  let some document := Toml.Document.ofText? content | throw (.unreadable path)
  let some config := decode? document.root | throw (.unreadable path)
  let has (key : List String) : Bool := hasMember document.root (key.map Bytes.ofString)
  if !has ["package"] then throw (.missingPackage path)
  if !has ["package", "name"] || isBlankText config.name then throw (.missingName path)
  if !has ["build", "main"] || isBlankText config.main then throw (.missingMain path)
  if config.maxDiagnostics < 0 then throw (.negativeLimit path)
  match document.keys.find? (!isKnown ·) with
  | some key => throw (.unknownKey path key)
  | none => return config

def text (c : ManifestConfig) : Bytes :=
  let entry (key : String) (value : Bytes) : Bytes :=
    "  " ++ Bytes.ofString key ++ " = " ++ value ++ [Bytes.newline]
  "[package]\n" ++ entry "name" (Toml.quoted c.name) ++
    (if c.compiler.isEmpty then [] else entry "compiler" (Toml.quoted c.compiler)) ++
    "\n[build]\n" ++ entry "main" (Toml.quoted c.main) ++
    entry "max_diagnostics" (Bytes.ofInt c.maxDiagnostics)

/-- The manifest of a new package: any version of the tool from the present minor version on. -/
def forPackage (build : Build) (name : Bytes) : ManifestConfig :=
  let v := build.version
  { name
    compiler := ">=" ++ Bytes.ofNat v.major ++ "." ++ Bytes.ofNat v.minor ++ ".0"
    main := "main" ++ sourceExt }

end ManifestConfig

structure Manifest where
  path : Bytes
  root : Bytes
  config : ManifestConfig

namespace Manifest

def fileName : Bytes := "nkl.toml"

def checkCompiler (m : Manifest) (build : Build) : Except ProjectProblem Unit :=
  let constraint := Bytes.trim m.config.compiler
  if constraint.isEmpty then .ok ()
  else
    match build.satisfies? constraint with
    | none => .error (.badConstraint m.path constraint)
    | some true => .ok ()
    | some false => .error (.unsatisfied m.path build.number constraint)

variable {μ : Type → Type} [Monad μ] [FileAccess μ]

private def findIn : List Bytes → μ (Except ProjectProblem (Option Bytes))
  | [] => return .ok none
  | dir :: rest => do
    let candidate := Path.join [dir, fileName]
    match ← FileAccess.stat candidate with
    | .ok _ => return .ok (some candidate)
    | .error e => if e.isNotFound then findIn rest else return .error (.searchFailed candidate e)

/-- The path of the nearest manifest from a directory upward. -/
def find (start : Bytes) : μ (Except ProjectProblem (Option Bytes)) := do
  let wd ← FileAccess.workingDirectory
  findIn (Path.ancestors (Path.absolute wd (if start.isEmpty then "." else start)))

def findRoot (start : Bytes) : μ (Except ProjectProblem (Option Bytes)) := do
  return (← find start).map (·.map Path.dir)

def readConfig (path : Bytes) : μ (Except ProjectProblem ManifestConfig) := do
  match ← FileAccess.readFile path with
  | .ok content => return ManifestConfig.ofText path content
  | .error _ => return .error (.unreadable path)

def load (start : Bytes) : μ (Except ProjectProblem (Option Manifest)) := do
  match ← find start with
  | .error e => return .error e
  | .ok none => return .ok none
  | .ok (some path) =>
    match ← readConfig path with
    | .error e => return .error e
    | .ok config => return .ok (some { path, root := Path.dir path, config })

def target (m : Manifest) : μ (Except ProjectProblem (Bytes × Bool)) := do
  let path := Path.join [m.root, Bytes.trim m.config.main]
  match ← FileAccess.stat path with
  | .error e =>
    if e.isNotFound then return .error (.targetMissing m.path path)
    else return .error (.targetUnreadable m.path e)
  | .ok .directory => return .ok (path, true)
  | .ok _ =>
    if Path.ext path == sourceExt then return .ok (path, false)
    else return .error (.targetNotSource m.path)

end Manifest

end Keywordless
