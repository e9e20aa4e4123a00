import Std.Data.ExtTreeMap
import Std.Data.ExtTreeSet

/-!
# Tables

Finite maps and sets of texts, in the order of their code points. Two tables with
the same entries are equal, however they came about, and their keys are listed in
strictly increasing order.
-/

namespace PodCache

/-- A finite map from texts. -/
abbrev Table (α : Type) := Std.ExtTreeMap String α

/-- A finite set of texts. -/
abbrev TextSet := Std.ExtTreeSet String

namespace Table

/-- The keys in strictly increasing order. -/
theorem keys_pairwise_lt {α : Type} (t : Table α) : t.keys.Pairwise (· < ·) :=
  t.ordered_keys.imp compareOfLessAndEq_eq_lt.1

end Table

end PodCache
