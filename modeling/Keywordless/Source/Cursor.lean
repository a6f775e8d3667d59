import Keywordless.Fault
import Keywordless.Source.File

/-!
# Cursors

A reading position in a file. Positions are 32-bit words, so that a file of `2 ^ 32` bytes has no
cursor. A reset may put the cursor beyond the content, and a step from the last position returns to
the first.
-/

namespace Keywordless

structure Cursor where
  file : SourceFile
  offset : Nat := 0

namespace Cursor

def ofFile (file : SourceFile) : Except Fault Cursor :=
  if file.content.length < offsetLimit then .ok { file } else .error .oversized

def atEnd (c : Cursor) : Bool := c.offset ≥ c.file.content.length

private def byteAt (c : Cursor) (offset : Nat) : UInt8 := c.file.content.getD offset 0

/-- The byte under the cursor, zero at the end. -/
def peek (c : Cursor) : UInt8 := if c.atEnd then 0 else c.byteAt c.offset

private def next (c : Cursor) : Nat := (c.offset + 1) % offsetLimit

def peekPair (c : Cursor) : Except Fault (Option (UInt8 × UInt8)) :=
  if c.next ≥ c.file.content.length then .ok none
  else
    match c.file.content[c.offset]?, c.file.content[c.next]? with
    | some b0, some b1 => .ok (some (b0, b1))
    | _, _ => .error .outOfRange

def bump (c : Cursor) : UInt8 × Cursor :=
  if c.atEnd then (0, c) else (c.peek, { c with offset := c.next })

def eat (c : Cursor) (b : UInt8) : Bool × Cursor :=
  if !c.atEnd && c.peek == b then (true, { c with offset := c.next }) else (false, c)

def spanFrom (c : Cursor) (mark : Nat) : Span := ⟨c.file.id, mark, c.offset⟩

def reset (c : Cursor) (mark : Nat) : Cursor := { c with offset := mark % offsetLimit }

end Cursor

end Keywordless
