import Keywordless.Text.Utf8

/-!
# JSON documents

Documents are written either on one line or indented by two blanks a level. Members keep the order
in which they are given.
-/

namespace Keywordless

inductive Json where
  | null
  | bool (value : Bool)
  | num (value : Int)
  | str (value : Bytes)
  | arr (items : List Json)
  | obj (members : List (Bytes × Json))

namespace Json

private def escapeChar (c : Char) : Bytes :=
  let n := c.toNat
  if n = 0x22 then "\\\""
  else if n = 0x5C then "\\\\"
  else if n = 0x08 then "\\b"
  else if n = 0x0C then "\\f"
  else if n = 0x0A then "\\n"
  else if n = 0x0D then "\\r"
  else if n = 0x09 then "\\t"
  else if n < 0x20 || n = 0x3C || n = 0x3E || n = 0x26 || n = 0x2028 || n = 0x2029 then
    "\\u" ++ Bytes.hexDigits 4 n
  else Utf8.encode c

/-- A string literal. Angle brackets and the ampersand are escaped, so that the text can stand in a
web page; a malformed byte becomes the replacement character. -/
def quote (text : Bytes) : Bytes := 0x22 :: (Utf8.chars text).flatMap escapeChar ++ [0x22]

private def bracketed (opening closing : UInt8) (parts : List Bytes) : Bytes :=
  opening :: Bytes.join "," parts ++ [closing]

private def indented (opening closing : UInt8) (depth : Nat) (parts : List Bytes) : Bytes :=
  if parts.isEmpty then [opening, closing]
  else
    let start := Bytes.newline :: Bytes.spaces (2 * (depth + 1))
    opening :: start ++ Bytes.join (0x2C :: start) parts ++
      Bytes.newline :: Bytes.spaces (2 * depth) ++ [closing]

mutual

def compact : Json → Bytes
  | null => "null"
  | bool value => if value then "true" else "false"
  | num value => Bytes.ofInt value
  | str value => quote value
  | arr items => bracketed 0x5B 0x5D (compactItems items)
  | obj members => bracketed 0x7B 0x7D (compactMembers members)

private def compactItems : List Json → List Bytes
  | [] => []
  | item :: rest => compact item :: compactItems rest

private def compactMembers : List (Bytes × Json) → List Bytes
  | [] => []
  | (key, value) :: rest => (quote key ++ 0x3A :: compact value) :: compactMembers rest

end

mutual

def pretty (depth : Nat) : Json → Bytes
  | null => "null"
  | bool value => if value then "true" else "false"
  | num value => Bytes.ofInt value
  | str value => quote value
  | arr items => indented 0x5B 0x5D depth (prettyItems (depth + 1) items)
  | obj members => indented 0x7B 0x7D depth (prettyMembers (depth + 1) members)

private def prettyItems (depth : Nat) : List Json → List Bytes
  | [] => []
  | item :: rest => pretty depth item :: prettyItems depth rest

private def prettyMembers (depth : Nat) : List (Bytes × Json) → List Bytes
  | [] => []
  | (key, value) :: rest =>
    (quote key ++ 0x3A :: 0x20 :: pretty depth value) :: prettyMembers depth rest

end

def document (j : Json) : Bytes := pretty 0 j ++ [Bytes.newline]

def line (j : Json) : Bytes := compact j ++ [Bytes.newline]

def nat (n : Nat) : Json := num n

abbrev Fields := List (Bytes × Json)

def record (groups : List Fields) : Json := obj groups.flatten

namespace Fields

def field (key : String) (value : Json) : Fields := [(key, value)]

def fieldIf (present : Bool) (key : String) (value : Json) : Fields :=
  if present then field key value else []

/-- A member that is left out when its text is empty. -/
def optionalStr (key : String) (value : Bytes) : Fields :=
  fieldIf (!value.isEmpty) key (str value)

def optionalNat (key : String) (value : Nat) : Fields :=
  fieldIf (value != 0) key (nat value)

end Fields

end Json

end Keywordless
