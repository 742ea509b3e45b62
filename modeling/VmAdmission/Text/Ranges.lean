/-!
# Sets of characters as ranges of code points

A class of characters is kept as the list of its maximal ranges. `covers_iff` states membership
without the list's order, so a table may be written in any order that reads well.
-/

namespace VmAdmission.Text

/-- Ranges of code points, both ends included. -/
abbrev Ranges := List (Nat × Nat)

namespace Ranges

/-- Whether some range holds the character's code point. -/
def covers (ranges : Ranges) (c : Char) : Bool :=
  ranges.any fun (low, high) => low ≤ c.toNat && c.toNat ≤ high

theorem covers_iff {ranges : Ranges} {c : Char} :
    ranges.covers c = true ↔ ∃ r ∈ ranges, r.1 ≤ c.toNat ∧ c.toNat ≤ r.2 := by
  simp [covers]

end Ranges

end VmAdmission.Text
