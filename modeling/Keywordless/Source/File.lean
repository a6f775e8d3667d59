import Keywordless.Path
import Keywordless.Source.Span
import Keywordless.Text.Digest

/-!
# Source files

The content of a file with its path, and the correspondence between offsets and lines. A file read
from disk loses its byte-order mark, and each carriage return before a newline.
-/

namespace Keywordless

structure LineCol where
  line : Nat
  col : Nat
  deriving DecidableEq, Repr

/-- How a file came to be: one bit for each of the properties below. -/
abbrev FileFlags := UInt8

namespace FileFlags

def virtual : FileFlags := 1

def hadMark : FileFlags := 2

def foldedLines : FileFlags := 4

end FileFlags

structure SourceFile where
  id : FileId
  path : Bytes
  content : Bytes
  flags : FileFlags := 0
  deriving Repr

/-- A carriage return right before a newline goes away; others stay. -/
def foldLineEnds : Bytes → Bytes
  | [] => []
  | b :: rest =>
    if b == 0x0D && rest.head? == some Bytes.newline then foldLineEnds rest
    else b :: foldLineEnds rest

def dropByteOrderMark (content : Bytes) : Bytes :=
  (Bytes.dropLead? [0xEF, 0xBB, 0xBF] content).getD content

def newlineOffsets (start : Nat) : Bytes → List Nat
  | [] => []
  | b :: rest =>
    if b == Bytes.newline then start :: newlineOffsets (start + 1) rest
    else newlineOffsets (start + 1) rest

namespace SourceFile

def digest (f : SourceFile) : Bytes := Digest.sha256 f.content

def newlines (f : SourceFile) : List Nat := newlineOffsets 0 f.content

/-- The line and column of an offset, which may lie beyond the content. Both are 32-bit words. -/
def position (f : SourceFile) (offset : Nat) : LineCol :=
  let before := f.newlines.takeWhile (· < offset)
  let lineStart := (before.getLast?.map (· + 1)).getD 0
  ⟨(before.length + 1) % offsetLimit, (offset - lineStart + 1) % offsetLimit⟩

def resolve (f : SourceFile) (span : Span) : LineCol × LineCol :=
  (f.position span.start, f.position span.stop)

def location (f : SourceFile) (span : Span) : Bytes :=
  let p := f.position span.start
  f.path ++ ":" ++ Bytes.ofNat p.line ++ ":" ++ Bytes.ofNat p.col

/-- The part of the content that a span covers, clamped to the content. -/
def slice (f : SourceFile) (span : Span) : Bytes :=
  let stop := min span.stop f.content.length
  let start := min span.start stop
  (f.content.drop start).take (stop - start)

/-- A line by its number, without its newline; empty where there is no such line. -/
def line (f : SourceFile) (number : Nat) : Bytes :=
  if number = 0 then []
  else ((Bytes.splitOnByte Bytes.newline f.content)[number - 1]?).getD []

end SourceFile

inductive PathStyle where
  | given
  | absolute
  | relative
  | basename
  deriving DecidableEq, Repr

namespace PathStyle

def name : PathStyle → Bytes
  | given => "auto"
  | absolute => "absolute"
  | relative => "relative"
  | basename => "basename"

def ofName (name : Bytes) : PathStyle :=
  ([absolute, relative, basename].find? fun s => s.name == name).getD given

def ofNumber : Nat → PathStyle
  | 1 => absolute
  | 2 => relative
  | 3 => basename
  | _ => given

end PathStyle

/-- Which path to show, seen from the working directory `wd`; `base` is the directory that relative
paths start from, the working directory when empty. -/
structure PathView where
  style : PathStyle := .given
  base : Bytes := []
  wd : Bytes := []

def SourceFile.shownPath (f : SourceFile) (view : PathView) : Bytes :=
  match view.style with
  | .given => f.path
  | .absolute => Path.absolute view.wd f.path
  | .relative =>
    (Path.relative? (if view.base.isEmpty then view.wd else view.base) f.path).getD f.path
  | .basename => Path.base f.path

end Keywordless
