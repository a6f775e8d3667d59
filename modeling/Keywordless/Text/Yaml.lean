import Keywordless.Text.Json
import Keywordless.Text.Yaml.Implicit

/-!
# YAML documents

Documents are written in block style with two blanks a level. A text stands plain where a reader
takes it for that text, and is quoted where it would be read as something else.
-/

namespace Keywordless

namespace Yaml

/-! ## Which styles a text allows -/

private def isPrintable (c : Char) : Bool :=
  let n := c.toNat
  n = 0x0A || (0x20 ≤ n && n ≤ 0x7E) || (0xA0 ≤ n && n ≤ 0xFFFD && n != 0xFEFF)

private def isBreak (c : Char) : Bool := [0x0A, 0x0D, 0x85, 0x2028, 0x2029].contains c.toNat

private def isBlank (c : Char) : Bool := c = ' ' || c = '\t'

private def isIndicator (first : Bool) (before after : Option Char) (c : Char) : Bool :=
  let open_ := after.all isBlank
  if first then
    "#,[]\x7b\x7d&*!|>'\"%@`".toList.contains c || ((c = '?' || c = ':' || c = '-') && open_)
  else (c = ':' && open_) || (c = '#' && before.all fun b => isBlank b || isBreak b)

private def around (before : Option Char) : List Char → List (Option Char × Char × Option Char)
  | [] => []
  | c :: rest => (before, c, rest.head?) :: around (some c) rest

private def isBlankBreak (p : Option Char × Char × Option Char) : Bool :=
  p.2.1 = ' ' && p.2.2.any isBreak

private def isBreakBlank (p : Option Char × Char × Option Char) : Bool :=
  isBreak p.2.1 && p.2.2 == some ' '

private def isOuter (c : Char) : Bool := c = ' ' || isBreak c

private def looksLikeStructure (cs : List Char) : Bool :=
  "---".toList.isPrefixOf cs || "...".toList.isPrefixOf cs ||
    (around none cs).any fun (before, c, after) => isIndicator before.isNone before after c

/-- No character needs an escape and no blank stands next to a line break. -/
private def allowsSingleQuotes (cs : List Char) : Bool :=
  cs.all isPrintable && !(around none cs).any fun p => isBlankBreak p || isBreakBlank p

private def allowsPlain (cs : List Char) : Bool :=
  allowsSingleQuotes cs && !cs.any isBreak &&
  !(cs.head?.any isOuter) && !(cs.getLast?.any isOuter) &&
    !looksLikeStructure cs

private def allowsLiteral (cs : List Char) : Bool :=
  cs.getLast? != some ' ' && cs.all (fun c => isPrintable c || c = '\t') &&
    !(around none cs).any isBlankBreak

/-! ## Writing -/

private def escaped (c : Char) : Bytes :=
  let n := c.toNat
  let letters : List (Nat × String) := [(0x00, "\\0"), (0x07, "\\a"), (0x08, "\\b"), (0x09, "\\t"),
    (0x0A, "\\n"), (0x0B, "\\v"), (0x0C, "\\f"), (0x0D, "\\r"), (0x1B, "\\e"), (0x22, "\\\""),
    (0x5C, "\\\\"), (0x85, "\\N"), (0xA0, "\\_"), (0x2028, "\\L"), (0x2029, "\\P")]
  let upper (text : Bytes) : Bytes := text.map fun b => if Bytes.isLower b then b - 0x20 else b
  match letters.lookup n with
  | some text => text
  | none =>
    if n ≤ 0xFF then "\\x" ++ upper (Bytes.hexDigits 2 n)
    else if n ≤ 0xFFFF then "\\u" ++ upper (Bytes.hexDigits 4 n)
    else "\\U" ++ upper (Bytes.hexDigits 8 n)

private def needsEscape (c : Char) : Bool := !isPrintable c || isBreak c || c = '"' || c = '\\'

private def byteOrderMark : Char := Char.ofNat 0xFEFF

/-- A text that starts with a byte order mark has every character escaped. -/
private def doubleQuoted (cs : List Char) : Bytes :=
  let marked := cs.head? == some byteOrderMark
  let inner := cs.flatMap fun c => if marked || needsEscape c then escaped c else Utf8.encode c
  0x22 :: inner ++ [0x22]

/-- A quote is written twice; the first character after a line break is indented. -/
private def singleQuotedFrom (indent : Nat) (afterBreak : Bool) : List Char → Bytes
  | [] => []
  | c :: rest =>
    if isBreak c then Utf8.encode c ++ singleQuotedFrom indent true rest
    else if c = ' ' then Utf8.encode c ++ singleQuotedFrom indent afterBreak rest
    else
      (if afterBreak then Bytes.spaces indent else []) ++ (if c = '\'' then [0x27] else []) ++
        Utf8.encode c ++ singleQuotedFrom indent false rest

private def singleQuoted (indent : Nat) (cs : List Char) : Bytes :=
  0x27 :: singleQuotedFrom indent false cs ++ [0x27]

private inductive LiteralPlace where
  | header
  | lineStart
  | inLine

private def LiteralPlace.lead (indent : Nat) : LiteralPlace → Bytes
  | header => Bytes.newline :: Bytes.spaces indent
  | lineStart => Bytes.spaces indent
  | inLine => []

/-- The characters of a literal text up to the end of its last line. Any line break starts a line;
one right after the header ends the header. -/
private def literalFrom (indent : Nat) (place : LiteralPlace) : List Char → Bytes
  | [] => match place with
    | .lineStart => []
    | _ => [Bytes.newline]
  | c :: rest =>
    if isBreak c then Utf8.encode c ++ literalFrom indent .lineStart rest
    else place.lead indent ++ Utf8.encode c ++ literalFrom indent .inLine rest

/-- How a reader treats the line breaks at the end of a literal text. -/
private def chomping (cs : List Char) : Bytes :=
  match cs.reverse with
  | [] => "-"
  | c :: rest => if !isBreak c then "-" else if rest.head?.all isBreak then "+" else []

private def literal (indent : Nat) (cs : List Char) : Bytes :=
  let hint : Bytes := if cs.head?.any isOuter then "2" else []
  "|" ++ hint ++ chomping cs ++ literalFrom indent .header cs

def scalar (indent : Nat) (text : Bytes) : Bytes :=
  let cs := Utf8.chars text
  if cs.contains '\n' && allowsLiteral cs then literal indent cs
  else
    let oneLine :=
      if cs.contains '\n' || !readsAsText text then doubleQuoted cs
      else if allowsPlain cs then text
      else if allowsSingleQuotes cs then singleQuoted indent cs
      else doubleQuoted cs
    oneLine ++ [Bytes.newline]

mutual

private def after (indent : Nat) : Json → Bytes
  | .null => " null\n"
  | .bool value => if value then " true\n" else " false\n"
  | .num value => 0x20 :: Bytes.ofInt value ++ [Bytes.newline]
  | .str value => 0x20 :: scalar (indent + 2) value
  | .arr [] => " []\n"
  | .arr items => Bytes.newline :: sequence (indent + 2) items
  | .obj [] => " \x7b\x7d\n"
  | .obj members => Bytes.newline :: mapping (indent + 2) true members

private def sequence (indent : Nat) : List Json → Bytes
  | [] => []
  | .obj members :: rest =>
    Bytes.spaces indent ++ "- " ++ mapping (indent + 2) false members ++ sequence indent rest
  | item :: rest => Bytes.spaces indent ++ "-" ++ after indent item ++ sequence indent rest

private def mapping (indent : Nat) (fresh : Bool) : List (Bytes × Json) → Bytes
  | [] => []
  | (key, value) :: rest =>
    (if fresh then Bytes.spaces indent else []) ++ key ++ ":" ++ after indent value ++
      mapping indent true rest

end

def document : Json → Bytes
  | .obj members => mapping 0 true members
  | other => (after 0 other).drop 1

end Yaml

end Keywordless
