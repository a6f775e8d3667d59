import Keywordless.Files.Tree

/-!
# Changes of a file tree

What others do to the files while the program runs, and what can be observed of it.
-/

namespace Keywordless

inductive FileChange where
  | write (path content : Bytes)
  | remove (path : Bytes)
  | makeDirectory (path : Bytes)
  | rename (path newPath : Bytes)
  /-- Changes nothing but permissions. -/
  | touch (path : Bytes)

inductive FileNews where
  | created (path : Bytes)
  | written (path : Bytes)
  | removed (path : Bytes)
  | moved (path : Bytes)
  | touched (path : Bytes)
  deriving DecidableEq, Repr

def FileNews.path : FileNews → Bytes
  | created path | written path | removed path | moved path | touched path => path

namespace FileTree

/-- The places that one tree has and another has not, shortest first. -/
private def gained (old new : FileTree) : List Place :=
  ((new.entries.map Prod.fst).filter fun place => (old.entryAt? place).isNone).mergeSort
    fun a b => a.length ≤ b.length

def change (t : FileTree) : FileChange → FileTree × List FileNews
  | .write path content =>
    let path := Path.absolute (pathOf t.wd) path
    let ready := (t.makeDirectories (Path.dir path)).2
    let new := (ready.writeFile path content).toOption.getD ready
    (new, (gained t new).map (.created <| pathOf ·) ++ [.written path])
  | .remove path =>
    let new := t.removeAll path
    (new, (gained new t).reverse.map (.removed <| pathOf ·))
  | .makeDirectory path =>
    let new := (t.makeDirectories path).2
    (new, (gained t new).map (.created <| pathOf ·))
  | .rename path newPath =>
    let new := t.rename path newPath
    match t.locate path false, new.locate path false with
    | .ok before, .ok after =>
      if before.entry.isSome && after.entry.isNone then
        (new, [.moved (pathOf before.place), .created (Path.absolute (pathOf t.wd) newPath)])
      else (new, [])
    | _, _ => (new, [])
  | .touch path => (t, [.touched (Path.absolute (pathOf t.wd) path)])

end FileTree

end Keywordless
