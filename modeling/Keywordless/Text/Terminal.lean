import Keywordless.Text.Glyph

/-!
# Terminal text

How many cells a terminal fills with a text. Escape sequences and controls fill none; they are told
from visible text byte by byte, as a terminal does it.
-/

namespace Keywordless.Terminal

inductive Mode where
  | ground
  | escape
  | escapeIntermediate
  | control
  | controlIntermediate
  | deviceEntry
  | deviceParameters
  | deviceIntermediate
  | deviceString
  | command
  | message
  deriving DecidableEq, Repr

inductive Step where
  | enter (mode : Mode)
  | cell
  | character
  deriving DecidableEq, Repr

private def isQuiet (n : Nat) : Bool := n ≤ 0x17 || n = 0x19 || (0x1C ≤ n && n ≤ 0x1F)

private def isIntermediate (n : Nat) : Bool := 0x20 ≤ n && n ≤ 0x2F

private def isParameter (n : Nat) : Bool := 0x30 ≤ n && n ≤ 0x3F

private def isFinal (n : Nat) : Bool := 0x40 ≤ n && n ≤ 0x7E

private def delete : Nat := 0x7F

/-- The meaning of a byte that has no other one in the mode where it comes. -/
private def anywhere (n : Nat) : Step :=
  if n = 0x1B then .enter .escape
  else if n = 0x90 then .enter .deviceEntry
  else if n = 0x98 || n = 0x9E || n = 0x9F then .enter .message
  else if n = 0x9B then .enter .control
  else if n = 0x9D then .enter .command
  else if 0xC2 ≤ n && n ≤ 0xF4 then .character
  else .enter .ground

private def escaped (n : Nat) : Step :=
  if isQuiet n || n = delete then .enter .escape
  else if isIntermediate n then .enter .escapeIntermediate
  else if n = 0x5B then .enter .control
  else if n = 0x5D then .enter .command
  else if n = 0x50 then .enter .deviceEntry
  else if n = 0x58 || n = 0x5E || n = 0x5F then .enter .message
  else anywhere n

/-- The first byte of the header of a device string; white space and an escape end the header. -/
private def deviceStart (n : Nat) : Step :=
  if (0x08 ≤ n && n ≤ 0x0D) || n = 0x1B || isFinal n then .enter .deviceString
  else if isQuiet n || n = delete then .enter .deviceEntry
  else if isIntermediate n then .enter .deviceIntermediate
  else if isParameter n then .enter .deviceParameters
  else anywhere n

/-- Bytes that end a string: the string terminator, cancel, substitute and an escape. -/
private def endsString (n : Nat) : Bool := n = 0x9C || n = 0x18 || n = 0x1A || n = 0x1B

def Mode.step (mode : Mode) (byte : UInt8) : Step :=
  let n := byte.toNat
  match mode with
  | .ground => if 0x20 ≤ n && n ≤ 0x7F then .cell else anywhere n
  | .escape => escaped n
  | .escapeIntermediate =>
    if isQuiet n || isIntermediate n || n = delete then .enter .escapeIntermediate else anywhere n
  | .control =>
    if isQuiet n || isParameter n || n = delete then .enter .control
    else if isIntermediate n then .enter .controlIntermediate
    else anywhere n
  | .controlIntermediate =>
    if isQuiet n || isIntermediate n || n = delete then .enter .controlIntermediate else anywhere n
  | .deviceEntry => deviceStart n
  | .deviceParameters =>
    if isQuiet n || isParameter n || n = delete then .enter .deviceParameters
    else if isIntermediate n then .enter .deviceIntermediate
    else if isFinal n then .enter .deviceString
    else anywhere n
  | .deviceIntermediate =>
    if isQuiet n || isIntermediate n || n = delete then .enter .deviceIntermediate
    else if isParameter n || isFinal n then .enter .deviceString
    else anywhere n
  | .deviceString => if endsString n then anywhere n else .enter .deviceString
  | .command =>
    if n = 0x07 then .enter .ground else if endsString n then anywhere n else .enter .command
  | .message => if endsString n || n ≥ 0x80 then anywhere n else .enter .message

def widthFrom (mode : Mode) (text : Bytes) : Nat :=
  match text with
  | [] => 0
  | b :: rest =>
    match mode.step b with
    | .enter mode => widthFrom mode rest
    | .cell => 1 + widthFrom .ground rest
    | .character =>
      let glyph := Glyph.first (b :: rest)
      glyph.1 + widthFrom .ground ((b :: rest).drop glyph.2)
termination_by text.length
decreasing_by
  · simp
  · simp
  · have := Glyph.first_size_pos (b :: rest)
    simp only [List.length_drop, List.length_cons]
    omega

def width (text : Bytes) : Nat := widthFrom .ground text

end Keywordless.Terminal
