import Keywordless.Source.File
import Keywordless.Fault

/-!
# File sets

The files of one compilation, numbered in the order they were added. A path may be added again; its
latest file is then the one that it names.
-/

namespace Keywordless

structure FileSet where
  files : Array SourceFile := #[]

namespace FileSet

def empty : FileSet := {}

def size (s : FileSet) : Nat := s.files.size

def add (s : FileSet) (path content : Bytes) (flags : FileFlags) : FileId × FileSet :=
  let id := s.files.size
  (id, ⟨s.files.push { id, path := Path.clean path, content, flags }⟩)

def addVirtual (s : FileSet) (name content : Bytes) : FileId × FileSet :=
  s.add name content .virtual

/-- The file with the number `id` that has some bytes on disk: a mark at its start is dropped and
its line ends are folded. -/
def fileOfRaw (id : FileId) (path raw : Bytes) : SourceFile :=
  let unmarked := dropByteOrderMark raw
  let content := foldLineEnds unmarked
  let flags : FileFlags :=
    (if unmarked.length = raw.length then 0 else .hadMark) |||
      (if content.length = unmarked.length then 0 else .foldedLines)
  { id, path := Path.clean path, content, flags }

def addLoaded (s : FileSet) (path raw : Bytes) : FileId × FileSet :=
  (s.files.size, ⟨s.files.push (fileOfRaw s.files.size path raw)⟩)

def single (path raw : Bytes) : SourceFile × FileSet :=
  let file := fileOfRaw 0 path raw
  (file, ⟨#[file]⟩)

def get? (s : FileSet) (id : FileId) : Option SourceFile := s.files[id]?

def get (s : FileSet) (id : FileId) : Except Fault SourceFile :=
  match s.get? id with
  | some f => .ok f
  | none => .error .outOfRange

def latest? (s : FileSet) (path : Bytes) : Option FileId :=
  ((s.files.toList.filter fun f => f.path == Path.clean path).getLast?).map (·.id)

end FileSet

end Keywordless
