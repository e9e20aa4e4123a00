import Mathlib.Algebra.Ring.Nat
import PodCache.Proofs.Table
import PodCache.Qos

/-!
# The class of a pod

The tables of totals hold, for processor time and for memory, the sum of the positive
amounts over all containers, as far as it fits, and nothing where there is no positive
amount. From this the class is told without the tables: by the amounts that the containers
have, and by the sums.
-/

namespace PodCache

namespace Qos

/-! ### Amounts and their sums -/

/-- The list has a positive amount of the resource. -/
def HasPositive (list : ResourceList) (name : String) : Prop :=
  ∃ q, list[name]? = some q ∧ 0 < q.nanos

/-- The nano-units of a resource in a list, none if the amount is not positive. -/
def positiveNanos (list : ResourceList) (name : String) : Nat :=
  (list[name]?.map (·.nanos.toNat)).getD 0

/-- The positive amounts of a resource over all lists, in nano-units. -/
def exactTotal (lists : List ResourceList) (name : String) : Nat :=
  (lists.map (positiveNanos · name)).sum

/-- The same sum, or the largest amount if that is less. -/
def cappedTotal (lists : List ResourceList) (name : String) : Int :=
  min Quantity.maxNanos (exactTotal lists name)

theorem positiveNanos_pos_iff (list : ResourceList) (name : String) :
    0 < positiveNanos list name ↔ HasPositive list name := by
  unfold positiveNanos HasPositive
  cases found : list[name]? with
  | none => simp
  | some q => simp

theorem exactTotal_pos_iff (lists : List ResourceList) (name : String) :
    0 < exactTotal lists name ↔ ∃ list ∈ lists, HasPositive list name := by
  induction lists with
  | nil => simp [exactTotal]
  | cons list lists ih =>
    have total : exactTotal (list :: lists) name =
        positiveNanos list name + exactTotal lists name := rfl
    rw [List.exists_mem_cons_iff, ← ih, ← positiveNanos_pos_iff, total]
    omega

/-! ### The tables of totals -/

/-- A total as the tables hold it: capped, and only if it is positive. -/
def entry (total : Nat) : Option Quantity :=
  if 0 < total then some (Quantity.clamp total) else none

/-- Totals stay capped sums when one more positive amount is added. -/
theorem clamp_add (total : Nat) {q : Quantity} (positive : 0 < q.nanos) :
    Quantity.clamp total + q = Quantity.clamp (total + q.nanos) := by
  have bound := q.le_max
  apply Quantity.ext
  rw [Quantity.nanos_add]
  simp only [Quantity.clamp, Quantity.minNanos, Quantity.maxNanos] at bound ⊢
  omega

theorem clamp_nanos (q : Quantity) : Quantity.clamp q.nanos = q := by
  have least := q.min_le
  have greatest := q.le_max
  apply Quantity.ext
  simp only [Quantity.clamp]
  omega

theorem entry_inj {m n : Nat} :
    entry m = entry n ↔ min Quantity.maxNanos (m : Int) = min Quantity.maxNanos (n : Int) := by
  unfold entry
  by_cases positive : 0 < m
  · by_cases other : 0 < n
    · simp only [positive, other, if_true, Option.some.injEq, Quantity.clamp, Quantity.mk.injEq,
        Quantity.minNanos, Quantity.maxNanos]
      omega
    · simp only [positive, other, if_true, if_false, reduceCtorEq, false_iff, Quantity.maxNanos]
      omega
  · by_cases other : 0 < n
    · simp only [positive, other, if_true, if_false, reduceCtorEq, false_iff, Quantity.maxNanos]
      omega
    · have same : m = n := by omega
      simp [same]

/-- The contribution under a name: the positive amount of a supported resource. -/
theorem contributions_filter (list : ResourceList) (name : String) :
    (contributions list).filter (·.1 == name) =
      ((list[name]?.filter fun q => isSupported name && q.isPositive).map
        fun q => (name, q)).toList := by
  unfold contributions
  rw [List.filter_comm, Table.filter_toList]
  cases list[name]? with
  | none => rfl
  | some q => cases counts : isSupported name && q.isPositive <;> simp [Option.filter, counts]

/-- A total with one more amount. -/
def addTo (total : Option Quantity) (contribution : String × Quantity) : Option Quantity :=
  match total with
  | none => some contribution.2
  | some total => some (total + contribution.2)

theorem accumulate_getElem? (totals : Table Quantity) (list : ResourceList) (name : String) :
    (accumulate totals list)[name]? =
      ((contributions list).filter (·.1 == name)).foldl addTo totals[name]? := by
  let lookup : Table Quantity → String → Option Quantity := fun totals name => totals[name]?
  refine foldl_lookup lookup ?_ totals (contributions list) name
  rintro totals ⟨k, q⟩ j
  simp only [lookup, Std.ExtTreeMap.getElem?_alter, Std.compare_eq_iff_eq]
  by_cases equal : k = j
  · subst equal
    rw [if_pos rfl, if_pos rfl]
    cases totals[k]? <;> rfl
  · rw [if_neg equal, if_neg equal]

theorem accumulate_supported {totals : Table Quantity} {name : String} {total : Nat}
    (list : ResourceList) (supported : isSupported name = true)
    (before : totals[name]? = entry total) :
    (accumulate totals list)[name]? = entry (total + positiveNanos list name) := by
  rw [accumulate_getElem?, contributions_filter, before, positiveNanos]
  cases list[name]? with
  | none => rfl
  | some q =>
    by_cases positive : 0 < q.nanos
    · have counts : (isSupported name && q.isPositive) = true := by
        simp [supported, Quantity.isPositive, positive]
      have exact : ((total + q.nanos.toNat : Nat) : Int) = total + q.nanos := by omega
      have grown : 0 < total + q.nanos.toNat := by omega
      simp only [Option.filter_some, counts, if_true, Option.map_some, Option.toList_some,
        List.foldl_cons, List.foldl_nil, Option.getD_some, addTo, entry, grown, exact]
      by_cases empty : total = 0
      · simp [empty, clamp_nanos]
      · simp [Nat.pos_of_ne_zero empty, clamp_add total positive]
    · have nothing : q.nanos.toNat = 0 := by omega
      have passes : (isSupported name && q.isPositive) = false := by
        simp [Quantity.isPositive, positive]
      simp [Option.filter_some, passes, nothing]

theorem accumulate_unsupported (totals : Table Quantity) (list : ResourceList) {name : String}
    (unsupported : isSupported name = false) :
    (accumulate totals list)[name]? = totals[name]? := by
  rw [accumulate_getElem?, contributions_filter, unsupported]
  cases list[name]? <;> rfl

/-- The table of the totals over some lists. -/
def totals (lists : List ResourceList) : Table Quantity := lists.foldl accumulate ∅

theorem totals_getElem? (lists : List ResourceList) (name : String) :
    (totals lists)[name]? =
      if isSupported name then entry (exactTotal lists name) else none := by
  cases supported : isSupported name with
  | false =>
    have kept := foldl_keeps (fun totals : Table Quantity => totals[name]?)
      (fun totals list => accumulate_unsupported totals list supported) ∅ lists
    exact kept.trans (Std.ExtTreeMap.getElem?_empty)
  | true =>
    -- The sum grows from the front, so the table is compared from any total on.
    have sums : ∀ (lists : List ResourceList) (start : Table Quantity) (total : Nat),
        start[name]? = entry total →
        (lists.foldl accumulate start)[name]? = entry (total + exactTotal lists name) := by
      intro lists
      induction lists with
      | nil => exact fun _ _ before => before
      | cons list lists ih =>
        intro start total before
        rw [List.foldl_cons, ih _ _ (accumulate_supported list supported before), Nat.add_assoc]
        rfl
    have whole := sums lists ∅ 0 rfl
    rwa [Nat.zero_add] at whole

theorem isSupported_iff (name : String) : isSupported name = true ↔ name ∈ [cpu, memory] := by
  simp [isSupported]

theorem totals_eq_empty_iff (lists : List ResourceList) :
    totals lists = ∅ ↔ ∀ list ∈ lists, ∀ name ∈ [cpu, memory], ¬ HasPositive list name := by
  constructor
  · intro empty list member name supported positive
    have found := totals_getElem? lists name
    have total := (exactTotal_pos_iff lists name).2 ⟨list, member, positive⟩
    rw [if_pos ((isSupported_iff name).2 supported), entry, if_pos total, empty] at found
    cases found
  · intro nothing
    apply Table.ext
    intro name
    rw [totals_getElem?]
    split
    · rename_i supported
      rw [entry, if_neg]
      · rfl
      · rw [exactTotal_pos_iff]
        rintro ⟨list, member, positive⟩
        exact nothing list member name ((isSupported_iff name).1 supported) positive
    · rfl

/-- Two tables of totals are the same if they agree on the capped sums. -/
theorem totals_eq_iff (some others : List ResourceList) :
    totals some = totals others ↔
      ∀ name ∈ [cpu, memory], cappedTotal some name = cappedTotal others name := by
  constructor
  · intro same name supported
    have found := totals_getElem? others name
    rw [← same, totals_getElem?] at found
    simp only [(isSupported_iff name).2 supported, if_true] at found
    exact entry_inj.1 found
  · intro same
    apply Table.ext
    intro name
    rw [totals_getElem?, totals_getElem?]
    split
    · rename_i supported
      exact entry_inj.2 (same name ((isSupported_iff name).1 supported))
    · rfl

theorem mem_contributions_iff (list : ResourceList) {name : String}
    (supported : isSupported name = true) :
    name ∈ (contributions list).map Prod.fst ↔ HasPositive list name := by
  simp only [contributions, List.mem_map, List.mem_filter, HasPositive]
  constructor
  · rintro ⟨⟨k, q⟩, ⟨member, counts⟩, rfl⟩
    have found := Std.ExtTreeMap.mem_toList_iff_getElem?_eq_some.1 member
    exact ⟨q, found, by simpa [supported, Quantity.isPositive] using counts⟩
  · rintro ⟨q, found, positive⟩
    have member := Std.ExtTreeMap.mem_toList_iff_getElem?_eq_some.2 found
    exact ⟨(name, q), ⟨member, by simp [supported, Quantity.isPositive, positive]⟩, rfl⟩

theorem hasFullLimits_iff (r : ResourceRequirements) :
    hasFullLimits r = true ↔ HasPositive r.limits cpu ∧ HasPositive r.limits memory := by
  have time := @mem_contributions_iff r.limits cpu (by decide)
  have space := @mem_contributions_iff r.limits memory (by decide)
  simp only [hasFullLimits, Bool.and_eq_true, List.contains_iff_mem, time, space]

/-! ### The class -/

/-- The requests of all containers. -/
def requests (r : PodResources) : List ResourceList := r.containers.values.map (·.requests)

/-- The limits of all containers. -/
def limits (r : PodResources) : List ResourceList := r.containers.values.map (·.limits)

/-- No container asks for a positive amount of a resource that counts, nor accepts one as
    its limit. -/
def Undemanding (r : PodResources) : Prop :=
  ∀ c ∈ r.containers.values, ∀ name ∈ [cpu, memory],
    ¬ HasPositive c.requests name ∧ ¬ HasPositive c.limits name

/-- There are containers, each with positive limits on both resources, and the capped sums
    of the requests are those of the limits. -/
def Balanced (r : PodResources) : Prop :=
  r.containers.values ≠ [] ∧
  (∀ c ∈ r.containers.values, HasPositive c.limits cpu ∧ HasPositive c.limits memory) ∧
  ∀ name ∈ [cpu, memory], cappedTotal (requests r) name = cappedTotal (limits r) name

/-- All entries of one table in another of the same size: the two are the same. -/
theorem sameEntries_iff (s t : Table Quantity) :
    (s.toList.all (fun (name, q) => t[name]? == some q) && s.size == t.size) = true ↔ s = t := by
  rw [Bool.and_eq_true, List.all_eq_true, beq_iff_eq]
  constructor
  · rintro ⟨included, size⟩
    refine Table.eq_of_subset ?_ size
    intro name q found
    have member := Std.ExtTreeMap.mem_toList_iff_getElem?_eq_some.2 found
    exact beq_iff_eq.1 (included (name, q) member)
  · rintro rfl
    refine ⟨?_, rfl⟩
    rintro ⟨name, q⟩ member
    exact beq_iff_eq.2 (Std.ExtTreeMap.mem_toList_iff_getElem?_eq_some.1 member)

theorem classify_eq (r : PodResources) :
    classify r =
      if totals (requests r) = ∅ ∧ totals (limits r) = ∅ then .bestEffort
      else if (∀ c ∈ r.containers.values, hasFullLimits c = true) ∧
        totals (requests r) = totals (limits r) then .guaranteed
      else .burstable := by
  have asked : r.containers.values.foldl (fun totals c => accumulate totals c.requests) ∅ =
      totals (requests r) := by
    rw [totals, requests, List.foldl_map]
  have limited : r.containers.values.foldl (fun totals c => accumulate totals c.limits) ∅ =
      totals (limits r) := by
    rw [totals, limits, List.foldl_map]
  unfold classify
  dsimp only
  rw [asked, limited, Bool.and_assoc]
  simp only [Bool.and_eq_true, Std.ExtTreeMap.isEmpty_iff, ← sameEntries_iff, List.all_eq_true]

theorem undemanding_iff (r : PodResources) :
    totals (requests r) = ∅ ∧ totals (limits r) = ∅ ↔ Undemanding r := by
  simp only [totals_eq_empty_iff, requests, limits, List.forall_mem_map, Undemanding]
  constructor
  · rintro ⟨asked, limited⟩ c member name supported
    exact ⟨asked c member name supported, limited c member name supported⟩
  · intro nothing
    exact ⟨fun c member name supported => (nothing c member name supported).1,
      fun c member name supported => (nothing c member name supported).2⟩

/-- A balanced pod has a container with positive limits. -/
theorem Balanced.not_undemanding {r : PodResources} (balanced : Balanced r) :
    ¬ Undemanding r := by
  intro nothing
  obtain ⟨c, member⟩ := List.exists_mem_of_ne_nil _ balanced.1
  exact (nothing c member cpu (by simp)).2 (balanced.2.1 c member).1

theorem balanced_iff {r : PodResources} (demanding : ¬ Undemanding r) :
    (∀ c ∈ r.containers.values, hasFullLimits c = true) ∧
      totals (requests r) = totals (limits r) ↔ Balanced r := by
  have some : r.containers.values ≠ [] := by
    intro none
    apply demanding
    simp [Undemanding, none]
  have full : (∀ c ∈ r.containers.values, hasFullLimits c = true) ↔
      ∀ c ∈ r.containers.values, HasPositive c.limits cpu ∧ HasPositive c.limits memory :=
    forall₂_congr fun c _ => hasFullLimits_iff c
  rw [full, totals_eq_iff, Balanced]
  exact (and_iff_right some).symm

/-- A pod has the lowest class if none of its containers has a positive amount that counts,
    the highest if each has both limits and the sums of requests and limits agree, and the
    one between in all other cases. -/
theorem classify_iff (r : PodResources) :
    (classify r = .bestEffort ↔ Undemanding r) ∧
    (classify r = .guaranteed ↔ Balanced r) ∧
    (classify r = .burstable ↔ ¬ Undemanding r ∧ ¬ Balanced r) := by
  rw [classify_eq]
  by_cases lowest : totals (requests r) = ∅ ∧ totals (limits r) = ∅
  · have undemanding := (undemanding_iff r).1 lowest
    have unbalanced : ¬ Balanced r := fun balanced => balanced.not_undemanding undemanding
    rw [if_pos lowest]
    exact ⟨iff_of_true rfl undemanding, iff_of_false (by decide) unbalanced,
      iff_of_false (by decide) fun both => both.1 undemanding⟩
  · have demanding := mt (undemanding_iff r).2 lowest
    rw [if_neg lowest, ← balanced_iff demanding]
    split
    · rename_i highest
      exact ⟨iff_of_false (by decide) demanding, iff_of_true rfl highest,
        iff_of_false (by decide) fun both => both.2 highest⟩
    · rename_i between
      exact ⟨iff_of_false (by decide) demanding, iff_of_false (by decide) between,
        iff_of_true rfl ⟨demanding, between⟩⟩

end Qos

end PodCache
