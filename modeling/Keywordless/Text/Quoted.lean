import Keywordless.Text.Utf8
import Keywordless.Text.Table.Printable

/-!
# Quoted texts

Texts and characters in quotes, with escapes for everything that is not printable. Malformed bytes
are shown one by one in hexadecimal.
-/

namespace Keywordless.Quoted

def isPrintable (c : Char) : Bool := c = ' ' || CharSet.graphics.has c.toNat

private def controlLetter? (c : Char) : Option UInt8 :=
  match c.toNat with
  | 0x07 => some 0x61
  | 0x08 => some 0x62
  | 0x09 => some 0x74
  | 0x0A => some 0x6E
  | 0x0B => some 0x76
  | 0x0C => some 0x66
  | 0x0D => some 0x72
  | _ => none

private def backslash : UInt8 := 0x5C

def escapeChar (quote : Char) (c : Char) : Bytes :=
  if c = quote || c = '\\' then [backslash, c.toNat.toUInt8]
  else if isPrintable c then Utf8.encode c
  else
    match controlLetter? c with
    | some letter => [backslash, letter]
    | none =>
      if c.toNat < 0x20 || c.toNat = 0x7F then backslash :: 0x78 :: Bytes.hexDigits 2 c.toNat
      else if c.toNat < 0x10000 then backslash :: 0x75 :: Bytes.hexDigits 4 c.toNat
      else backslash :: 0x55 :: Bytes.hexDigits 8 c.toNat

def text (t : Bytes) : Bytes :=
  let inner := (Utf8.pieces t).flatMap fun (c, source) =>
    if (Utf8.decode? source).isSome then escapeChar '"' c
    else source.flatMap fun b => backslash :: 0x78 :: Bytes.hexByte b
  0x22 :: inner ++ [0x22]

def char (c : Char) : Bytes := 0x27 :: escapeChar '\'' c ++ [0x27]

end Keywordless.Quoted
