set_option autoImplicit false

namespace RecordRing

/-- A set of code points: ranges with their first and their last member. -/
structure CodeRanges where
  ranges : Array (Nat × Nat)

def CodeRanges.contains (set : CodeRanges) (character : Char) : Bool :=
  set.ranges.any fun (first, last) => first ≤ character.toNat && character.toNat ≤ last

end RecordRing
