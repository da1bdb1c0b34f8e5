/-
X86Gloss/Text/CodeRanges.lean

A set of characters as a list of closed ranges of code points.
-/
namespace X86Gloss

/-- Closed ranges of code points, first and last member of each. -/
abbrev CodeRanges := List (Nat × Nat)

/-- Membership: some range holds the code point of the character. -/
def CodeRanges.covers (ranges : CodeRanges) (c : Char) : Bool :=
  ranges.any fun range => range.1 ≤ c.toNat && c.toNat ≤ range.2

end X86Gloss
