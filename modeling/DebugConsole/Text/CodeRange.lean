/-!
# Tables of code points

A property of characters is kept as a list of inclusive ranges of code points, in increasing order. `CodeRange.anyContains`
asks whether a character has the property.
-/

namespace DebugConsole

/-- The code points from `first` to `last`, both included. -/
structure CodeRange where
  first : Nat
  last : Nat
deriving DecidableEq, Repr

namespace CodeRange

/-- Whether a code point lies in the range. -/
def contains (r : CodeRange) (n : Nat) : Bool :=
  decide (r.first ≤ n) && decide (n ≤ r.last)

/-- Whether a character lies in one of the ranges. -/
def anyContains (table : List CodeRange) (c : Char) : Bool :=
  table.any (·.contains c.toNat)

theorem contains_iff (r : CodeRange) (n : Nat) : r.contains n = true ↔ r.first ≤ n ∧ n ≤ r.last := by
  simp [contains]

theorem anyContains_iff (table : List CodeRange) (c : Char) :
    anyContains table c = true ↔ ∃ r ∈ table, r.first ≤ c.toNat ∧ c.toNat ≤ r.last := by
  simp [anyContains, contains_iff]

end CodeRange

end DebugConsole
