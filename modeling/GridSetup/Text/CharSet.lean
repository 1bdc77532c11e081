/-!
# Sets of characters

A character property of a standard is a table: ranges of code points, both ends included, in
rising order. A `CharSet` is such a table and nothing more, so that a fact about every member is
a fact about finitely many ranges. The order of the ranges is a convenience for the reader;
membership does not use it.
-/

namespace GridSetup.Text

/-- A set of characters, given by ranges of code points with both ends included. -/
structure CharSet where
  ranges : List (Nat × Nat)

namespace CharSet

/-- Whether a code point lies in one of the ranges. -/
def containsCode (s : CharSet) (n : Nat) : Bool :=
  s.ranges.any fun r => r.1 ≤ n && n ≤ r.2

/-- Whether a character belongs to the set. -/
def contains (s : CharSet) (c : Char) : Bool :=
  s.containsCode c.toNat

theorem containsCode_iff {s : CharSet} {n : Nat} :
    s.containsCode n = true ↔ ∃ r ∈ s.ranges, r.1 ≤ n ∧ n ≤ r.2 := by
  simp [containsCode]

end CharSet

end GridSetup.Text
