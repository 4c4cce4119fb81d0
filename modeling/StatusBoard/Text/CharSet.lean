/-!
Sets of characters written down as ranges of code points, the form in which the tables of a
character property are published.
-/

namespace StatusBoard.Text

/-- A set of characters, as inclusive ranges of code points in ascending order. -/
structure CharSet where
  ranges : List (Nat × Nat)

namespace CharSet

/-- Whether a range of the set covers the character. -/
def contains (s : CharSet) (c : Char) : Bool :=
  s.ranges.any fun r => r.1 ≤ c.toNat && c.toNat ≤ r.2

/-- A character is in the set exactly if it lies in one of the ranges. -/
theorem contains_iff {s : CharSet} {c : Char} :
    s.contains c = true ↔ ∃ r ∈ s.ranges, r.1 ≤ c.toNat ∧ c.toNat ≤ r.2 := by
  simp [contains]

end CharSet

end StatusBoard.Text
