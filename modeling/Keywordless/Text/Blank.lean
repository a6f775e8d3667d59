import Keywordless.Text.Utf8
import Keywordless.Text.CharSet

/-!
# Blanks and letter case

Trimming removes white space of every script. Words of the command line and the manifest are
compared without regard to case.
-/

namespace Keywordless

def CharSet.blanks : CharSet := [
  (0x09, 0x0D), (0x20, 0x20), (0x85, 0x85), (0xA0, 0xA0), (0x1680, 0x1680), (0x2000, 0x200A),
  (0x2028, 0x2029), (0x202F, 0x202F), (0x205F, 0x205F), (0x3000, 0x3000)]

namespace Bytes

private def isBlankPiece (piece : Char × Bytes) : Bool := CharSet.blanks.has piece.1.toNat

def trim (text : Bytes) : Bytes :=
  let kept := ((Utf8.pieces text).dropWhile isBlankPiece).reverse.dropWhile isBlankPiece
  kept.reverse.flatMap Prod.snd

/-- The lower-case form of a character among the ASCII letters. Outside ASCII only the dotted
capital I and the kelvin sign have one; every other character is kept. -/
def lowerChar (c : Char) : Char :=
  if c.toNat = 0x130 then 'i' else if c.toNat = 0x212A then 'k' else c.toLower

/-- Lower case, exact for every text whose lower-case form is ASCII. -/
def lower (text : Bytes) : Bytes :=
  (Utf8.chars text).flatMap fun c => Utf8.encode (lowerChar c)

end Bytes

end Keywordless
