import Keywordless.Diagnostic.Bag
import Keywordless.Source.FileSet
import Keywordless.Text.Json
import Keywordless.Text.Style
import Keywordless.Text.Width

/-!
# Rendered diagnostics

For people, each diagnostic is a headline, the source lines it is about with the span underlined,
and its notes. For programs there is a JSON document.
-/

namespace Keywordless

structure ReportStyle where
  color : Bool := false
  /-- How many lines are shown above the one the diagnostic is about; negative is none. -/
  context : Int := 0
  paths : PathView := {}
  notes : Bool := false
  measure : Measure := Width.measure

namespace Report

private def severityStyle (s : Severity) : Style :=
  if s == .error then ⟨[.red, .bold]⟩
  else if s == .warning then ⟨[.yellow, .bold]⟩
  else ⟨[.cyan, .bold]⟩

private def noteStyle : Style := ⟨[.blue, .bold]⟩
def gutterStyle : Style := ⟨[.blue]⟩
def caretStyle : Style := ⟨[.red, .bold]⟩
private def placeStyle : Style := ⟨[.bold]⟩

private def shownPath (file : Option SourceFile) (view : PathView) : Bytes :=
  match file with
  | some f => f.shownPath view
  | none => "<unknown>"

private def place (file : Option SourceFile) (span : Span) (view : PathView) : Bytes :=
  match file with
  | some f =>
    let p := f.position span.start
    f.shownPath view ++ ":" ++ Bytes.ofNat p.line ++ ":" ++ Bytes.ofNat p.col
  | none => shownPath none view

/-- Blanks as wide as `lead`, with its tabs kept, so that what follows lines up. -/
def padding (measure : Measure) (lead : Bytes) : Bytes :=
  (Utf8.chars lead).flatMap fun c => if c = '\t' then [0x09] else Bytes.spaces (measure.char c)

/-- The bytes of a line between two columns, counted from zero, that have to be within it. -/
def part (line : Bytes) (first last : Int) : Except Fault Bytes :=
  if 0 ≤ first ∧ first ≤ last ∧ last ≤ line.length then
    .ok ((line.take last.toNat).drop first.toNat)
  else .error .outOfRange

/-- What of a line stands before the underline, and what above it. -/
structure Underline where
  lead : Bytes
  covered : Bytes

def underline (line : Bytes) (start stop : LineCol) : Except Fault Underline := do
  let first := min ((start.col : Int) - 1) line.length
  let last := if stop.line = start.line then min ((stop.col : Int) - 1) line.length else line.length
  let covered ← part line first (max last first)
  let lead ← part line 0 first
  return ⟨lead, covered⟩

/-- The numbers of the lines shown: the line itself and at most `context` before it. Numbers are
32-bit words, so that counting up to the last of them does not end. -/
def shownLines (line : Nat) (context : Int) : Except Fault (List Nat) :=
  let first := if line > context.toNat then line - context.toNat else 1
  if line + 1 = offsetLimit then .error .endless
  else .ok ((List.range (line + 1 - first)).map (first + ·))

def gutterText (width : Nat) (text : Bytes) : Bytes := Bytes.padLeft width text ++ " |"

def gutter (color : Bool) (width : Nat) (text : Bytes) : Bytes :=
  gutterStyle.paint color (gutterText width text)

def numberedLines (color : Bool) (f : SourceFile) (width : Nat) (numbers : List Nat) : Bytes :=
  numbers.flatMap fun number =>
    gutter color width (Bytes.ofNat number) ++ Bytes.space :: f.line number ++ [Bytes.newline]

/-- The line below them: a caret for the first cell behind `lead`, a tilde for every other one. -/
def caretLine (measure : Measure) (color : Bool) (width : Nat) (lead : Bytes) (cells : Nat) :
    Bytes :=
  gutter color width [] ++ Bytes.space :: padding measure lead ++
    caretStyle.paint color (0x5E :: List.replicate (cells - 1) 0x7E) ++ [Bytes.newline]

/-- The source lines around a span, the last one with the span underlined. -/
def snippet (measure : Measure) (color : Bool) (f : SourceFile) (span : Span) (context : Int) :
    Except Fault Bytes := do
  let (start, stop) := f.resolve span
  let width := (Bytes.ofNat start.line).length
  let shown ← shownLines start.line context
  let cut ← underline (f.line start.line) start stop
  let cells := max (measure.text cut.covered) 1
  return numberedLines color f width shown ++ caretLine measure color width cut.lead cells

private def noteLine (files : FileSet) (style : ReportStyle) (n : Note) : Bytes :=
  "  " ++ noteStyle.paint style.color "note:" ++ " " ++
    place (files.get? n.span.file) n.span style.paths ++ ": " ++ n.message ++ [Bytes.newline]

private def entry (files : FileSet) (style : ReportStyle) (d : Diagnostic) :
    Except Fault Bytes := do
  let file := files.get? d.primary.file
  let headline := placeStyle.paint style.color (place file d.primary style.paths) ++ ": " ++
    (severityStyle d.severity).paint style.color (d.severity.name ++ " " ++ d.code.id) ++ ": " ++
    d.message ++ [Bytes.newline]
  let source ← match file with
    | some f => snippet style.measure style.color f d.primary style.context
    | none => .ok []
  return headline ++ source ++ if style.notes then d.notes.flatMap (noteLine files style) else []

def pretty (files : FileSet) (style : ReportStyle) (ds : List Diagnostic) : Except Fault Bytes := do
  let entries ← ds.mapM (entry files style)
  return entries.flatten

structure JsonStyle where
  positions : Bool := false
  paths : PathView := {}
  /-- At most this many diagnostics are shown, all of them when it is not positive. -/
  limit : Int := 0
  notes : Bool := false

private def placeJson (files : FileSet) (style : JsonStyle) (span : Span) : Json :=
  let file := files.get? span.file
  let positions : Json.Fields :=
    match file with
    | some f =>
      let (start, stop) := f.resolve span
      Json.Fields.optionalNat "start_line" start.line ++
        Json.Fields.optionalNat "start_col" start.col ++
        Json.Fields.optionalNat "end_line" stop.line ++
        Json.Fields.optionalNat "end_col" stop.col
    | none => []
  .record [
    .field "file" (.str (shownPath file style.paths)),
    .field "start_byte" (.nat span.start),
    .field "end_byte" (.nat span.stop),
    if style.positions then positions else []]

private def noteJson (files : FileSet) (style : JsonStyle) (n : Note) : Json :=
  .record [
    .field "message" (.str n.message),
    .field "location" (placeJson files style n.span)]

private def entryJson (files : FileSet) (style : JsonStyle) (d : Diagnostic) : Json :=
  .record [
    .field "severity" (.str d.severity.name),
    .field "code" (.str d.code.id),
    .field "title" (.str d.code.title),
    .field "message" (.str d.message),
    .field "location" (placeJson files style d.primary),
    .fieldIf (style.notes && !d.notes.isEmpty) "notes" (.arr (d.notes.map (noteJson files style)))]

def json (files : FileSet) (style : JsonStyle) (ds : List Diagnostic) : Json :=
  let shown := if style.limit > 0 then ds.take style.limit.toNat else ds
  .record [
    .field "diagnostics" (.arr (shown.map (entryJson files style))),
    .field "count" (.nat shown.length)]

end Report

end Keywordless
