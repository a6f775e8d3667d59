import Keywordless.Files.Basic

/-!
# File trees

A file system as a value: a table from places to files, directories and symbolic links. A place is
the list of names from the root; the root itself always exists.
-/

namespace Keywordless

inductive FileEntry where
  | file (content : Bytes)
  | directory
  | link (target : Bytes)
  deriving DecidableEq, Repr

def FileEntry.kind : FileEntry → FileKind
  | file _ => .file
  | directory => .directory
  | link _ => .link

abbrev Place := List Bytes

structure FileTree where
  entries : List (Place × FileEntry) := []
  wd : Place := []

namespace FileTree

def entryAt? (t : FileTree) (place : Place) : Option FileEntry :=
  if place.isEmpty then some .directory else t.entries.lookup place

def pathOf (place : Place) : Bytes := Path.slash :: Bytes.join [Path.slash] place

/-- Where a path leads, and what is there. -/
structure Located where
  place : Place
  entry : Option FileEntry

def linkLimit : Nat := 40

def nameLimit : Nat := 255

def pathLimit : Nat := 4096

def parts (path : Bytes) : List Bytes := Bytes.splitOnByte Path.slash path

/-- Follows names from the directory `here`; `jump` goes on where a link leads. A missing last name
is found missing; a missing name before it is an error, and so is an overlong name that is
reached. -/
def walk (t : FileTree) (lastLink : Bool) (jump : Place → List Bytes → Except FileCause Located)
    (here : Place) : List Bytes → Except FileCause Located
  | [] => .ok ⟨here, some .directory⟩
  | name :: rest =>
    if name == [] || name == "." then walk t lastLink jump here rest
    else if name == ".." then walk t lastLink jump here.dropLast rest
    else if name.length > nameLimit then .error .nameTooLong
    else
      let place := here ++ [name]
      match t.entryAt? place with
      | none => if rest.all List.isEmpty then .ok ⟨place, none⟩ else .error .notFound
      | some .directory => walk t lastLink jump place rest
      | some (.file content) =>
        if rest.isEmpty then .ok ⟨place, some (.file content)⟩ else .error .notDirectory
      | some (.link target) =>
        if rest.isEmpty && !lastLink then .ok ⟨place, some (.link target)⟩
        else jump (if Path.isAbsolute target then [] else here) (parts target ++ rest)

def follow (t : FileTree) (lastLink : Bool) : Nat → Place → List Bytes → Except FileCause Located
  | 0 => t.walk lastLink fun _ _ => .error .tooManyLinks
  | links + 1 => t.walk lastLink (t.follow lastLink links)

/-- A text that can be a path or the target of a link: not empty, not too long and without a zero
byte. -/
def checkPath (path : Bytes) : Except FileCause Unit :=
  if path.any (· == 0) then .error .invalid
  else if path.isEmpty then .error .notFound
  else if path.length ≥ pathLimit then .error .nameTooLong
  else .ok ()

/-- Looks a path up; the last name is followed when it is a link. -/
def locate (t : FileTree) (path : Bytes) (lastLink : Bool := true) : Except FileCause Located := do
  checkPath path
  follow t lastLink linkLimit (if Path.isAbsolute path then [] else t.wd) (parts path)

def find (t : FileTree) (path : Bytes) (lastLink : Bool) :
    Except FileCause (Place × FileEntry) := do
  let found ← t.locate path lastLink
  match found.entry with
  | some e => return (found.place, e)
  | none => .error .notFound

def tried {α : Type} (action path : Bytes) : Except FileCause α → Except FileError α
  | .ok a => .ok a
  | .error cause => .error ⟨action, path, cause⟩

def put (t : FileTree) (place : Place) (e : FileEntry) : FileTree :=
  { t with entries := (place, e) :: t.entries.filter (·.1 != place) }

def stat (t : FileTree) (path : Bytes) : Except FileError FileKind :=
  tried "stat" path ((t.find path true).map (·.2.kind))

def lstat (t : FileTree) (path : Bytes) : Except FileError FileKind :=
  tried "lstat" path ((t.find path false).map (·.2.kind))

def content (t : FileTree) (path : Bytes) : Except FileError Bytes := do
  match (← tried "open" path (t.find path true)).2 with
  | .file content => .ok content
  | _ => .error ⟨"read", path, .isDirectory⟩

def writeFile (t : FileTree) (path content : Bytes) : Except FileError FileTree := do
  let found ← tried "open" path (t.locate path)
  match found.entry with
  | some .directory => .error ⟨"open", path, .isDirectory⟩
  | _ => .ok (t.put found.place (.file content))

def createFile (t : FileTree) (path content : Bytes) : Except FileError FileTree := do
  let found ← tried "open" path (t.locate path false)
  match found.entry with
  | some _ => .error ⟨"open", path, .alreadyExists⟩
  | none => .ok (t.put found.place (.file content))

private def below (t : FileTree) (place : Place) : List (Bytes × FileKind) :=
  t.entries.filterMap fun (p, e) =>
    match p.getLast? with
    | some name => if p.dropLast == place then some (name, e.kind) else none
    | none => none

def listDirectory (t : FileTree) (path : Bytes) : Except FileError (List (Bytes × FileKind)) := do
  let (place, e) ← tried "open" path (t.find path true)
  match e with
  | .directory => .ok ((t.below place).mergeSort fun a b => !Bytes.lt b.1 a.1)
  | _ => .error ⟨"fdopendir", path, .notDirectory⟩

def makeOne (t : FileTree) (path : Bytes) : Except FileError FileTree := do
  let found ← tried "mkdir" path (t.locate path false)
  match found.entry with
  | some _ => .error ⟨"mkdir", path, .alreadyExists⟩
  | none => .ok (t.put found.place .directory)

/-- Creates the missing ones of some directories in turn, up to the first that cannot be made. -/
def makeEach (t : FileTree) : List Bytes → Except FileError Unit × FileTree
  | [] => (.ok (), t)
  | path :: rest =>
    match t.stat path with
    | .ok .directory => makeEach t rest
    | .ok _ => (.error ⟨"mkdir", path, .notDirectory⟩, t)
    | .error _ =>
      match t.makeOne path with
      | .ok t => makeEach t rest
      | .error e => (.error e, t)

/-- Creates the directories of a path that are missing. A file in the way is an error that names
the path it blocks; the directories before it stay. -/
def makeDirectories (t : FileTree) (path : Bytes) : Except FileError Unit × FileTree :=
  match t.stat path with
  | .ok .directory => (.ok (), t)
  | .ok _ => (.error ⟨"mkdir", path, .notDirectory⟩, t)
  | .error _ => t.makeEach (Path.leading path)

def removePlace (t : FileTree) (place : Place) : FileTree :=
  { t with entries := t.entries.filter fun (p, _) => !place.isPrefixOf p }

def removeAll (t : FileTree) (path : Bytes) : FileTree :=
  match t.locate path false with
  | .ok found => t.removePlace found.place
  | .error _ => t

/-- Creates a symbolic link where nothing is yet; the target need not exist. -/
def makeLink (t : FileTree) (path target : Bytes) : Except FileCause FileTree := do
  checkPath target
  let found ← t.locate path false
  if found.entry.isSome then .error .alreadyExists
  else if path.getLast? == some Path.slash then .error .notFound
  else .ok (t.put found.place (.link target))

/-- Moves a path, and everything below it, to another one. Nothing happens where that cannot be:
the path has to exist, and a directory takes the place of nothing but an empty directory. -/
def rename (t : FileTree) (path newPath : Bytes) : FileTree :=
  match t.locate path false, t.locate newPath false with
  | .ok source, .ok target =>
    if !mayTake t source target then t
    else
      let moved := (t.entries.filter fun (p, _) => source.place.isPrefixOf p).map fun (p, e) =>
        (target.place ++ p.drop source.place.length, e)
      let cleared := (t.removePlace source.place).removePlace target.place
      { cleared with entries := moved ++ cleared.entries }
  | _, _ => t
where
  mayTake (t : FileTree) (source target : Located) : Bool :=
    match source.entry, target.entry with
    | none, _ => false
    | some _, none => !source.place.isPrefixOf target.place
    | some .directory, some .directory =>
      !source.place.isPrefixOf target.place && (t.below target.place).isEmpty
    | some .directory, some _ | some _, some .directory => false
    | some _, some _ => source.place != target.place

def filesBelow (t : FileTree) (top : Place) : List (Bytes × FileEntry) :=
  t.entries.filterMap fun (p, e) =>
    if top.isPrefixOf p && e.kind != .directory then
      some (Bytes.join [Path.slash] (p.drop top.length), e)
    else none

def updating (result : Except FileError FileTree) (t : FileTree) :
    Except FileError Unit × FileTree :=
  match result with
  | .ok t' => (.ok (), t')
  | .error e => (.error e, t)

instance : FileAccess (StateM FileTree) where
  workingDirectory := fun t => (pathOf t.wd, t)
  readFile path := fun t => (t.content path, t)
  writeFile path content := fun t => updating (t.writeFile path content) t
  createFile path content := fun t => updating (t.createFile path content) t
  stat path := fun t => (t.stat path, t)
  lstat path := fun t => (t.lstat path, t)
  listDirectory path := fun t => (t.listDirectory path, t)
  makeDirectories path := fun t => t.makeDirectories path
  removeAll path := fun t => (.ok (), t.removeAll path)

end FileTree

end Keywordless
