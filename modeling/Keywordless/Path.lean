import Keywordless.Text.Bytes

/-!
# Slash-separated paths

Lexical operations on paths: no file system is consulted. A cleaned path has no empty or `.`
elements, and `..` only at its start.
-/

namespace Keywordless.Path

def slash : UInt8 := 0x2F

def dot : UInt8 := 0x2E

def isAbsolute (path : Bytes) : Bool := path.head? == some slash

def elements (path : Bytes) : List Bytes :=
  (Bytes.splitOnByte slash path).filter fun e => e != [] && e != [dot]

/-- Lets each `..` take back the element before it. `kept` is last to first. -/
def resolve (rooted : Bool) (kept : List Bytes) : List Bytes → List Bytes
  | [] => kept.reverse
  | e :: rest =>
    if e == [dot, dot] then
      match kept with
      | k :: earlier =>
        if k == [dot, dot] then resolve rooted (e :: kept) rest else resolve rooted earlier rest
      | [] => resolve rooted (if rooted then [] else [e]) rest
    else resolve rooted (e :: kept) rest

def cleanElements (path : Bytes) : List Bytes :=
  resolve (isAbsolute path) [] (elements path)

/-- The shortest equivalent path. -/
def clean (path : Bytes) : Bytes :=
  let body := Bytes.join [slash] (cleanElements path)
  if isAbsolute path then slash :: body
  else if body.isEmpty then [dot] else body

/-- Joins parts with slashes and cleans the result; leading empty parts are dropped. -/
def join (parts : List Bytes) : Bytes :=
  match parts.dropWhile List.isEmpty with
  | [] => []
  | present => clean (Bytes.join [slash] present)

def dir (path : Bytes) : Bytes :=
  clean (path.reverse.dropWhile (· != slash)).reverse

def base (path : Bytes) : Bytes :=
  if path.isEmpty then [dot]
  else
    match path.reverse.dropWhile (· == slash) with
    | [] => [slash]
    | stripped => (stripped.takeWhile (· != slash)).reverse

def ext (path : Bytes) : Bytes :=
  let name := path.reverse.takeWhile (· != slash)
  if name.contains dot then dot :: (name.takeWhile (· != dot)).reverse else []

def absolute (wd path : Bytes) : Bytes :=
  if isAbsolute path then clean path else join [wd, path]

private def stripCommon : List Bytes → List Bytes → List Bytes × List Bytes
  | b :: bs, t :: ts => if b == t then stripCommon bs ts else (b :: bs, t :: ts)
  | bs, ts => (bs, ts)

/-- The path to `target` from the directory `start`, where one can be told without knowing the
working directory: nothing leads down again from a start that goes up further than the target. -/
def relative? (start target : Bytes) : Option Bytes :=
  let s := clean start
  let t := clean target
  if s == t then some [dot]
  else if isAbsolute s != isAbsolute t then none
  else
    let (left, down) := stripCommon (cleanElements s) (cleanElements t)
    if left.head? == some [dot, dot] then none
    else some (Bytes.join [slash] (left.map (fun _ => [dot, dot]) ++ down))

def leading (path : Bytes) : List Bytes :=
  let names := (Bytes.splitOnByte slash path).filter (!·.isEmpty)
  let root : Bytes := if isAbsolute path then [slash] else []
  (List.range names.length).map fun i => root ++ Bytes.join [slash] (names.take (i + 1))

/-- Every directory from `path` up to the root. -/
def ancestors (path : Bytes) : List Bytes :=
  let rec go : List Bytes → List Bytes
    | [] => [[slash]]
    | e :: above => (slash :: Bytes.join [slash] (e :: above).reverse) :: go above
  go (cleanElements path).reverse

end Keywordless.Path
