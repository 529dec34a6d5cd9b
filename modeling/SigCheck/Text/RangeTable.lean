/-!
# Tables of code point ranges

A property of characters that has no short description is given by the ranges of code points that
have it.  A table lists only code points from 128 on; below that every class is spelled out, so
that the common case needs no search.
-/

namespace SigCheck

/-- Ranges of code points, both ends included, in increasing order. -/
abbrev RangeTable := List (Nat × Nat)

namespace RangeTable

/-- The code point `n` lies in one of the ranges of the table. -/
def contains (t : RangeTable) (n : Nat) : Bool :=
  t.any fun r => Nat.ble r.1 n && Nat.ble n r.2

theorem contains_iff {t : RangeTable} {n : Nat} :
    t.contains n = true ↔ ∃ r ∈ t, r.1 ≤ n ∧ n ≤ r.2 := by
  simp [contains, List.any_eq_true]

end RangeTable

end SigCheck
