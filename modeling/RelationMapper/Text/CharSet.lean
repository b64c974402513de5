/-!
# Sets of characters

A set of characters is kept as the ascending code points at which membership changes. `CharSet.mem` counts the changes
at or below a code point: an odd number of them means that the character belongs to the set.
-/

namespace RelationMapper.Text

/-- A set of characters: the first code point listed belongs to the set, from the second on characters no longer do,
from the third on they do again, and so on. -/
structure CharSet where
  changes : List Nat

/-- Whether a character belongs to a set. -/
def CharSet.mem (s : CharSet) (c : Char) : Bool :=
  (s.changes.takeWhile (· ≤ c.toNat)).length % 2 == 1

end RelationMapper.Text
