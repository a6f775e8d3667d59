import Keywordless.Source.FileSet
import Keywordless.Text.Json
import Keywordless.Token.Basic

/-!
# Token listings

The tokens of a file as numbered lines or as a JSON document, up to the end of the file.
-/

namespace Keywordless.Token

private def leadingKinds (t : Token) : List Bytes := t.leading.map (·.kind.name)

private def upToEnd : List Token → List Token
  | [] => []
  | t :: rest => if t.kind == .endOfFile then [t] else t :: upToEnd rest

private def positionText (p : LineCol) : Bytes := Bytes.ofNat p.line ++ ":" ++ Bytes.ofNat p.col

private def listingLine (files : FileSet) (number : Nat) (t : Token) : Except Fault Bytes := do
  let file ← files.get t.span.file
  let (start, stop) := file.resolve t.span
  let text : Bytes :=
    if t.text.isEmpty || t.kind == .newline then [] else Bytes.space :: Quoted.text t.text
  let leading : Bytes :=
    if t.leading.isEmpty then [] else " (leading: " ++ Bytes.join ", " t.leadingKinds ++ ")"
  return Bytes.padLeft 3 (Bytes.ofNat number) ++ ": " ++ Bytes.padRight 10 t.kind.name ++ text ++
    " at " ++ positionText start ++ "-" ++ positionText stop ++ leading ++ [Bytes.newline]

private def listingLines (files : FileSet) (number : Nat) : List Token → Except Fault (List Bytes)
  | [] => .ok []
  | t :: rest => do
    let line ← listingLine files number t
    let lines ← listingLines files (number + 1) rest
    return line :: lines

def listing (files : FileSet) (tokens : List Token) : Except Fault Bytes := do
  let lines ← listingLines files 1 (upToEnd tokens)
  return lines.flatten

private def spanJson (s : Span) : Json :=
  .record [
    .field "File" (.nat s.file), .field "Start" (.nat s.start), .field "End" (.nat s.stop)]

private def tokenJson (t : Token) : Json :=
  .record [
    .field "kind" (.str t.kind.name),
    .optionalStr "text" t.text,
    .field "span" (spanJson t.span),
    .fieldIf (!t.leading.isEmpty) "leading" (.arr (t.leadingKinds.map .str))]

def listingJson (tokens : List Token) : Bytes :=
  (Json.arr ((upToEnd tokens).map tokenJson)).document

end Keywordless.Token
