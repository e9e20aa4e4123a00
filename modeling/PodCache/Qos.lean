import PodCache.Resources

/-!
# Quality of service

The class of a pod follows from the positive amounts of processor time and memory
that its containers request and accept as limits. Amounts are summed over the whole
pod. A container without a positive limit on both resources rules out the highest
class for the pod, and so does a total request that differs from the total limit.
-/

namespace PodCache

/-- The quality of service that a pod can count on. -/
inductive QosClass where
  | guaranteed
  | burstable
  | bestEffort
  deriving DecidableEq, Repr

namespace QosClass

/-- The name of the class. -/
def name : QosClass → String
  | guaranteed => "Guaranteed"
  | burstable => "Burstable"
  | bestEffort => "BestEffort"

instance : Codec QosClass where
  encode q := .text q.name
  decode place v :=
    match Codec.name? [["Guaranteed"], ["Burstable"], ["BestEffort"]] place v with
    | some 0 => some guaranteed
    | some 1 => some burstable
    | some 2 => some bestEffort
    | _ => none

end QosClass

namespace Qos

/-- The resource name of processor time. -/
def cpu : String := "cpu"

/-- The resource name of memory. -/
def memory : String := "memory"

/-- Whether a resource plays a part in the class of a pod (`is_supported_qos_resource`). -/
def isSupported (name : String) : Bool := name == cpu || name == memory

/-- The entries of a resource list that play a part: positive amounts of a supported
    resource. -/
def contributions (list : ResourceList) : List (String × Quantity) :=
  list.toList.filter fun (name, q) => isSupported name && q.isPositive

/-- Adds the contributions of a resource list to the totals (`accumulate`). -/
def accumulate (totals : Table Quantity) (list : ResourceList) : Table Quantity :=
  (contributions list).foldl
    (fun totals (name, q) => totals.alter name fun
      | none => some q
      | some total => some (total + q))
    totals

/-- Whether a container has a positive limit on both resources. -/
def hasFullLimits (r : ResourceRequirements) : Bool :=
  let names := (contributions r.limits).map Prod.fst
  names.contains cpu && names.contains memory

/-- The class of a pod with the given requirements (`pod_qos_class`). -/
def classify (r : PodResources) : QosClass :=
  let containers := r.containers.values
  let requests := containers.foldl (fun totals c => accumulate totals c.requests) ∅
  let limits := containers.foldl (fun totals c => accumulate totals c.limits) ∅
  if requests.isEmpty && limits.isEmpty then .bestEffort
  else if containers.all hasFullLimits &&
      requests.toList.all (fun (name, q) => limits[name]? == some q) &&
      requests.size == limits.size then .guaranteed
  else .burstable

end Qos

end PodCache
