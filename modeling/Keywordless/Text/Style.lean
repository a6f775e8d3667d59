import Keywordless.Text.Bytes

/-!
# Terminal styles

Colours and weights as escape sequences. A style is undone attribute by attribute: weight has an
undoing code of its own, everything else goes back to the default.
-/

namespace Keywordless

inductive Attribute where
  | bold
  | faint
  | red
  | green
  | yellow
  | blue
  | cyan
  deriving DecidableEq, Repr

namespace Attribute

def code : Attribute → Nat
  | bold => 1
  | faint => 2
  | red => 31
  | green => 32
  | yellow => 33
  | blue => 34
  | cyan => 36

def undoing : Attribute → Nat
  | bold | faint => 22
  | _ => 0

end Attribute

/-- Attributes in the order in which they are written. -/
structure Style where
  attributes : List Attribute

namespace Style

private def sequence (codes : List Nat) : Bytes :=
  0x1B :: 0x5B :: Bytes.join ";" (codes.map Bytes.ofNat) ++ [0x6D]

def opening (s : Style) : Bytes := sequence (s.attributes.map Attribute.code)

def closing (s : Style) : Bytes := sequence (s.attributes.map Attribute.undoing)

def paint (s : Style) (enabled : Bool) (text : Bytes) : Bytes :=
  if enabled then s.opening ++ text ++ s.closing else text

end Style

end Keywordless
