/-!
# Character sets

Sets of code points as ascending lists of disjoint, inclusive ranges.
-/

namespace Keywordless

abbrev CharSet := List (Nat × Nat)

namespace CharSet

/-- Membership of a code point; the walk stops at the first range that lies above it. -/
def has : CharSet → Nat → Bool
  | [], _ => false
  | (lo, hi) :: rest, n => lo ≤ n && (n ≤ hi || has rest n)

end CharSet

end Keywordless
