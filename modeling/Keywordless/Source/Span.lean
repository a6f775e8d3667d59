import Keywordless.Text.Bytes

/-!
# Spans

Half-open byte ranges inside one file. Offsets are 32-bit: a difference of offsets is taken modulo
`offsetLimit`.
-/

namespace Keywordless

abbrev FileId := Nat

/-- Offsets, lines and columns are below this value. -/
def offsetLimit : Nat := Nat.pow 2 32

/-- The byte range from `start` up to, and without, `stop`. -/
structure Span where
  file : FileId := 0
  start : Nat := 0
  stop : Nat := 0
  deriving DecidableEq, Repr, Inhabited

namespace Span

def isEmpty (s : Span) : Bool := s.start == s.stop

def length (s : Span) : Nat := (s.stop + offsetLimit - s.start) % offsetLimit

def text (s : Span) : Bytes :=
  Bytes.ofNat s.file ++ ":" ++ Bytes.ofNat s.start ++ "-" ++ Bytes.ofNat s.stop

/-- The least range that holds both; a span of another file is ignored. -/
def cover (s other : Span) : Span :=
  if s.file = other.file then
    { s with start := min s.start other.start, stop := max s.stop other.stop }
  else s

def atStart (s : Span) : Span := { s with stop := s.start }

def atStop (s : Span) : Span := { s with start := s.stop }

end Span

end Keywordless
