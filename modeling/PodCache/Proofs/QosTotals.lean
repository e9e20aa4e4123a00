import PodCache.Proofs.QosClass

/-!
# Totals beyond the bounds

The totals of a pod are kept as quantities, so a sum that exceeds the greatest quantity is held
as that quantity. The highest class compares what is held: totals that fit are compared exactly,
and two totals that do not fit are taken for the same, whatever they are.
-/

namespace PodCache.Qos

/-- Capped totals are the same if the exact totals are, or if the cap leaves nothing of what
    tells them apart. -/
theorem cappedTotal_eq_iff (these others : List ResourceList) (name : String) :
    cappedTotal these name = cappedTotal others name ↔
      exactTotal these name = exactTotal others name ∨
      (Quantity.maxNanos ≤ exactTotal these name ∧
        Quantity.maxNanos ≤ exactTotal others name) := by
  unfold cappedTotal
  omega

theorem classify_eq_guaranteed_iff (r : PodResources) :
    classify r = .guaranteed ↔ Balanced r := by
  rw [classify_eq]
  by_cases lowest : totals (requests r) = ∅ ∧ totals (limits r) = ∅
  · have undemanding := (undemanding_iff r).1 lowest
    rw [if_pos lowest]
    exact iff_of_false (by decide) fun balanced => balanced.not_undemanding undemanding
  · rw [if_neg lowest, ← balanced_iff (mt (undemanding_iff r).2 lowest)]
    split
    · rename_i highest
      exact iff_of_true rfl highest
    · rename_i between
      exact iff_of_false (by decide) between

/-- A pod has the highest class just when it has containers, each with positive limits on both
    resources, and for each resource the exact total of the requests is that of the limits, or
    both totals reach the greatest quantity. In particular two different totals are taken for
    the same only there. -/
theorem guaranteed_iff_totals (r : PodResources) :
    classify r = .guaranteed ↔
      r.containers.values ≠ [] ∧
      (∀ c ∈ r.containers.values, HasPositive c.limits cpu ∧ HasPositive c.limits memory) ∧
      ∀ name ∈ [cpu, memory],
        exactTotal (requests r) name = exactTotal (limits r) name ∨
        (Quantity.maxNanos ≤ exactTotal (requests r) name ∧
          Quantity.maxNanos ≤ exactTotal (limits r) name) := by
  rw [classify_eq_guaranteed_iff, Balanced]
  refine and_congr_right fun _ => and_congr_right fun _ => ?_
  exact forall₂_congr fun name _ => cappedTotal_eq_iff (requests r) (limits r) name

/-- The requirements of a container that requests less processor time than it accepts. -/
def lopsided : ResourceRequirements where
  requests := ((∅ : ResourceList).insert "cpu" (.clamp 100000000000000000000000000000000000000)).insert
    "memory" (.clamp 1000000000)
  limits := ((∅ : ResourceList).insert "cpu" (.clamp 150000000000000000000000000000000000000)).insert
    "memory" (.clamp 1000000000)

/-- A model of two such containers. Either of them fits, but not both together. -/
def overloaded : PodResources where
  containers := ((∅ : Table ResourceRequirements).insert "a" lopsided).insert "b" lopsided

/-- The requirements of such a container in a document. -/
def lopsidedText : String :=
  "\x7b\"Requests\": \x7b\"cpu\": \"1e29\", \"memory\": 1\x7d, " ++
    "\"Limits\": \x7b\"cpu\": \"15e28\", \"memory\": 1\x7d\x7d"

theorem ofDocument?_overloaded :
    PodResources.ofDocument?
      ("\x7b\"Containers\": \x7b\"a\": " ++ lopsidedText ++ ", \"b\": " ++ lopsidedText ++ "\x7d\x7d") =
      some overloaded := by
  decide +kernel

/-- Different totals can be taken for the same, also those that a document can declare. -/
theorem not_forall_guaranteed_exact :
    ¬ ∀ (doc : String) (r : PodResources), PodResources.ofDocument? doc = some r →
      classify r = .guaranteed →
      ∀ name ∈ [cpu, memory], exactTotal (requests r) name = exactTotal (limits r) name := by
  intro equal
  have highest : classify overloaded = .guaranteed := by rfl
  have same := equal _ overloaded ofDocument?_overloaded highest cpu List.mem_cons_self
  have requested : exactTotal (requests overloaded) cpu = 2 * 10 ^ 38 := by rfl
  have limited : exactTotal (limits overloaded) cpu = 3 * 10 ^ 38 := by rfl
  rw [requested, limited] at same
  exact absurd same (by decide)

end PodCache.Qos
