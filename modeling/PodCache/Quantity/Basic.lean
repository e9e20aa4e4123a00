/-!
# Quantities

A quantity is an amount of a resource, such as processor time or memory, kept as
an exact count of nano-units. The count fits 128 bits with a sign; the bounds are
fields of the structure, so every operation has to stay within them. Views in
coarser units round up.
-/

namespace PodCache

/-- The quotient rounded towards positive infinity, for a positive divisor (`ceil_div`). -/
def ceilDiv (n d : Int) : Int :=
  n / d + if n % d = 0 then 0 else 1

/-- The smallest count of nano-units. -/
def Quantity.minNanos : Int := -170141183460469231731687303715884105728

/-- The largest count of nano-units. -/
def Quantity.maxNanos : Int := 170141183460469231731687303715884105727

/-- An amount of a resource in nano-units. -/
structure Quantity where
  nanos : Int
  min_le : Quantity.minNanos ≤ nanos
  le_max : nanos ≤ Quantity.maxNanos
  deriving DecidableEq

namespace Quantity

/-- The number of nano-units in one unit. -/
def nanosPerUnit : Int := 1000000000

/-- The quantity of so many nano-units, if they are within bounds (`from_nanos`). -/
def ofNanos? (n : Int) : Option Quantity :=
  if h : minNanos ≤ n ∧ n ≤ maxNanos then some ⟨n, h.1, h.2⟩ else none

/-- The quantity nearest to so many nano-units. -/
def clamp (n : Int) : Quantity :=
  ⟨max minNanos (min maxNanos n), by unfold minNanos maxNanos; omega,
    by unfold minNanos maxNanos; omega⟩

/-- Whole units, such as bytes of memory (`from_units`). -/
def ofUnits (units : Int64) : Quantity :=
  ⟨units.toInt * nanosPerUnit,
    by have := units.le_toInt; unfold nanosPerUnit minNanos; omega,
    by have := units.toInt_lt; unfold nanosPerUnit maxNanos; omega⟩

/-- The quantity of nothing. -/
def zero : Quantity := ⟨0, by decide, by decide⟩

instance : Inhabited Quantity := ⟨zero⟩

/-- The amount in thousandths of a unit, rounded up (`milli_value`). -/
def milliValue (q : Quantity) : Int := ceilDiv q.nanos 1000000

/-- The amount in whole units, rounded up (`value`). -/
def value (q : Quantity) : Int := ceilDiv q.nanos nanosPerUnit

/-- Whether the amount is nothing. -/
def isZero (q : Quantity) : Bool := q.nanos == 0

/-- Whether the amount is more than nothing. -/
def isPositive (q : Quantity) : Bool := 0 < q.nanos

instance : Ord Quantity where
  compare p q := compare p.nanos q.nanos

/-- The sum, or the nearest bound if the sum lies outside (`add`). -/
instance : Add Quantity where
  add p q := clamp (p.nanos + q.nanos)

/-- The sum, if it is within bounds (`checked_add`). -/
def checkedAdd (p q : Quantity) : Option Quantity := ofNanos? (p.nanos + q.nanos)

/-- The canonical text: a whole number of the coarsest of the units `1`, `m`,
    `u` and `n` that measures the amount exactly. -/
def display (q : Quantity) : String :=
  if q.nanos % nanosPerUnit = 0 then toString (q.nanos / nanosPerUnit)
  else if q.nanos % 1000000 = 0 then toString (q.nanos / 1000000) ++ "m"
  else if q.nanos % 1000 = 0 then toString (q.nanos / 1000) ++ "u"
  else toString q.nanos ++ "n"

instance : ToString Quantity := ⟨display⟩

@[ext] theorem ext {p q : Quantity} (h : p.nanos = q.nanos) : p = q := by
  cases p; cases q; simp_all

theorem ofNanos?_nanos (q : Quantity) : ofNanos? q.nanos = some q :=
  dif_pos ⟨q.min_le, q.le_max⟩

theorem nanos_of_ofNanos? {n : Int} {q : Quantity} (h : ofNanos? n = some q) : q.nanos = n := by
  unfold ofNanos? at h
  split at h
  · cases h; rfl
  · cases h

theorem nanos_add (p q : Quantity) :
    (p + q).nanos = max minNanos (min maxNanos (p.nanos + q.nanos)) := rfl

end Quantity

end PodCache
