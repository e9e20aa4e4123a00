/-!
# Integer ranges

The ranges of integers that a number of bits can hold, with or without a sign.
-/

namespace PodCache

/-- A range of integers, with both ends. -/
structure IntRange where
  least : Int
  greatest : Int
  deriving DecidableEq, Repr

namespace IntRange

/-- Whether the range holds an integer. -/
def contains (r : IntRange) (i : Int) : Bool := r.least ≤ i && i ≤ r.greatest

/-- The integer of the range that is nearest to the given one. -/
def clamp (r : IntRange) (i : Int) : Int := max r.least (min r.greatest i)

/-- The integers of 32 bits with a sign. -/
def signed32 : IntRange := ⟨-2147483648, 2147483647⟩

/-- The integers of 32 bits without a sign. -/
def unsigned32 : IntRange := ⟨0, 4294967295⟩

/-- The integers of 64 bits with a sign. -/
def signed64 : IntRange := ⟨-9223372036854775808, 9223372036854775807⟩

/-- The integers of 64 bits without a sign. -/
def unsigned64 : IntRange := ⟨0, 18446744073709551615⟩

/-- The integers of 128 bits with a sign. -/
def signed128 : IntRange :=
  ⟨-170141183460469231731687303715884105728, 170141183460469231731687303715884105727⟩

/-- The integers of 128 bits without a sign. -/
def unsigned128 : IntRange := ⟨0, 340282366920938463463374607431768211455⟩

theorem contains_iff {r : IntRange} {i : Int} :
    r.contains i = true ↔ r.least ≤ i ∧ i ≤ r.greatest := by
  simp [contains]

/-- Clamping ends in the range, unless the range is empty. -/
theorem contains_clamp {r : IntRange} (inhabited : r.least ≤ r.greatest) (i : Int) :
    r.contains (r.clamp i) = true := by
  rw [contains_iff, clamp]
  omega

/-- Clamping leaves the integers of the range alone. -/
theorem clamp_of_contains {r : IntRange} {i : Int} (member : r.contains i = true) :
    r.clamp i = i := by
  rw [contains_iff] at member
  rw [clamp]
  omega

end IntRange

end PodCache
