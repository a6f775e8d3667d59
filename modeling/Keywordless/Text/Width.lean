import Keywordless.Text.Cluster
import Keywordless.Text.Table.Width

/-!
# Display width

How many terminal cells a text takes. A cluster is as wide as the first of its characters that has
a width.
-/

namespace Keywordless

structure Measure where
  char : Char → Nat
  text : Bytes → Nat

namespace Width

def char (c : Char) : Nat :=
  let n := c.toNat
  if n < 0x20 || (0x7F ≤ n && n ≤ 0x9F) || n = 0xAD then 0
  else if n < 0x300 then 1
  else if CharSet.invisible.has n || CharSet.combining.has n then 0
  else if CharSet.wide.has n || CharSet.newlyWide.has n then 2
  else 1

def cluster (text : Bytes) : Nat :=
  (((Utf8.chars text).map char).find? (· > 0)).getD 0

def text (t : Bytes) : Nat := ((Cluster.split t).map cluster).foldl (· + ·) 0

/-- The cells of a terminal that gives ambiguous characters one. -/
def measure : Measure := ⟨char, text⟩

/-- The longest run of whole clusters within `width` cells, where `used` cells are taken. -/
private def fitting (width used : Nat) : List Bytes → Bytes
  | [] => []
  | c :: rest =>
    if used + cluster c > width then [] else c ++ fitting width (used + cluster c) rest

def truncate (t : Bytes) (width : Nat) (tail : Bytes) : Bytes :=
  if text t ≤ width then t else fitting (width - text tail) 0 (Cluster.split t) ++ tail

end Width

end Keywordless
