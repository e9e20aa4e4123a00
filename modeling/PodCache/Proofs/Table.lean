import PodCache.Table
import Mathlib.Data.List.Nodup
import Mathlib.Data.List.Perm.Subperm

/-!
# Laws of tables

Lookup after each way to change a table, and how the list of its values relates to
lookup. Since tables with the same entries are equal, a change that is undone gives
back the very same table. Tables are changed in loops over lists, so the last section
has the laws of folds.
-/

namespace PodCache

namespace Table

variable {α : Type}

theorem getElem?_insert (t : Table α) (k j : String) (v : α) :
    (t.insert k v)[j]? = if k = j then some v else t[j]? := by
  rw [Std.ExtTreeMap.getElem?_insert]
  simp only [Std.compare_eq_iff_eq]

theorem getElem?_insert_of_ne (t : Table α) {k j : String} (v : α) (different : k ≠ j) :
    (t.insert k v)[j]? = t[j]? := by
  rw [getElem?_insert, if_neg different]

theorem getElem?_erase (t : Table α) (k j : String) :
    (t.erase k)[j]? = if k = j then none else t[j]? := by
  rw [Std.ExtTreeMap.getElem?_erase]
  simp only [Std.compare_eq_iff_eq]

theorem mem_iff (t : Table α) (k : String) : k ∈ t ↔ ∃ v, t[k]? = some v := by
  rw [Std.ExtTreeMap.mem_iff_isSome_getElem?, Option.isSome_iff_exists]

theorem mem_of_getElem? {t : Table α} {k : String} {v : α} (found : t[k]? = some v) : k ∈ t :=
  (mem_iff t k).2 ⟨v, found⟩

theorem getElem?_eq_none_iff (t : Table α) (k : String) : t[k]? = none ↔ k ∉ t := by
  rw [mem_iff, Option.eq_none_iff_forall_ne_some]
  simp

theorem mem_insert (t : Table α) (k j : String) (v : α) : j ∈ t.insert k v ↔ j = k ∨ j ∈ t := by
  rw [Std.ExtTreeMap.mem_insert, Std.compare_eq_iff_eq, eq_comm]

theorem mem_erase (t : Table α) (k j : String) : j ∈ t.erase k ↔ j ≠ k ∧ j ∈ t := by
  rw [Std.ExtTreeMap.mem_erase, Ne, Std.compare_eq_iff_eq, eq_comm, Ne]

theorem mem_filter (t : Table α) (p : String → α → Bool) (k : String) :
    k ∈ t.filter p ↔ ∃ v, t[k]? = some v ∧ p k v = true := by
  simp [mem_iff, Option.filter_eq_some_iff]

theorem ext {s t : Table α} (same : ∀ k : String, s[k]? = t[k]?) : s = t :=
  Std.ExtTreeMap.ext_getElem? same

/-- What is found after an entry was put in is that entry, or was found before. -/
theorem insert_cases {t : Table α} {k j : String} {v w : α}
    (found : (t.insert k v)[j]? = some w) : k = j ∧ v = w ∨ t[j]? = some w := by
  rw [getElem?_insert] at found
  by_cases equal : k = j
  · rw [if_pos equal, Option.some.injEq] at found
    exact .inl ⟨equal, found⟩
  · rw [if_neg equal] at found
    exact .inr found

theorem singleton_cases {k j : String} {v w : α}
    (found : ((∅ : Table α).insert k v)[j]? = some w) : k = j ∧ v = w :=
  (insert_cases found).resolve_right fun other =>
    nomatch Std.ExtTreeMap.getElem?_empty.symm.trans other

/-- What is found after an entry was taken out is another one, and was found before. -/
theorem of_erase {t : Table α} {k j : String} {v : α} (found : (t.erase k)[j]? = some v) :
    k ≠ j ∧ t[j]? = some v := by
  rw [getElem?_erase] at found
  by_cases equal : k = j
  · simp [equal] at found
  · rw [if_neg equal] at found
    exact ⟨equal, found⟩

/-- Taking out an entry that was just put in gives back the table. -/
theorem erase_insert {t : Table α} {k : String} (v : α) (absent : k ∉ t) :
    (t.insert k v).erase k = t := by
  apply ext
  intro j
  rw [getElem?_erase, getElem?_insert]
  by_cases equal : k = j
  · subst equal
    rw [if_pos rfl, (getElem?_eq_none_iff t k).2 absent]
  · rw [if_neg equal, if_neg equal]

theorem map_insert {β : Type} (f : α → β) (t : Table α) (k : String) (v : α) :
    ((t.insert k v).map fun _ w => f w) = (t.map fun _ w => f w).insert k (f v) := by
  apply ext
  intro j
  rw [Std.ExtTreeMap.getElem?_map, getElem?_insert, getElem?_insert, Std.ExtTreeMap.getElem?_map]
  split <;> rfl

theorem map_erase {β : Type} (f : α → β) (t : Table α) (k : String) :
    ((t.erase k).map fun _ w => f w) = (t.map fun _ w => f w).erase k := by
  apply ext
  intro j
  rw [Std.ExtTreeMap.getElem?_map, getElem?_erase, getElem?_erase, Std.ExtTreeMap.getElem?_map]
  split <;> rfl

theorem size_insert_of_mem {t : Table α} {k : String} (v : α) (present : k ∈ t) :
    (t.insert k v).size = t.size := by
  rw [Std.ExtTreeMap.size_insert, if_pos (Std.ExtTreeMap.mem_iff_contains.1 present)]

theorem size_insert_of_not_mem {t : Table α} {k : String} (v : α) (absent : k ∉ t) :
    (t.insert k v).size = t.size + 1 := by
  rw [Std.ExtTreeMap.size_insert, if_neg (mt Std.ExtTreeMap.mem_iff_contains.2 absent)]

/-- Of two filters one after the other, a first one that is weaker has no effect. -/
theorem filter_filter_of_imp (t : Table α) {p q : String → α → Bool}
    (weaker : ∀ (k : String) (v : α), q k v = true → p k v = true) :
    (t.filter p).filter q = t.filter q := by
  apply ext
  intro k
  simp only [Std.ExtTreeMap.getElem?_filter', Option.filter_filter]
  congr 1
  funext v
  cases kept : q k v with
  | false => simp
  | true => simp [weaker k v kept]

theorem getElem?_filter_of_forall {t : Table α} {p : String → α → Bool} {k : String}
    (all : ∀ v, t[k]? = some v → p k v = true) : (t.filter p)[k]? = t[k]? := by
  rw [Std.ExtTreeMap.getElem?_filter']
  cases found : t[k]? with
  | none => rfl
  | some v => rw [Option.filter_some, if_pos (all v found)]

theorem filter_of_forall {t : Table α} {p : String → α → Bool}
    (all : ∀ (k : String) (v : α), t[k]? = some v → p k v = true) : t.filter p = t :=
  ext fun k => getElem?_filter_of_forall (all k)

/-- A table with all entries of another and no more of them is that table. -/
theorem eq_of_subset {s t : Table α}
    (subset : ∀ (k : String) (v : α), s[k]? = some v → t[k]? = some v)
    (size : s.size = t.size) : s = t := by
  have keys : s.keys ⊆ t.keys := by
    intro k member
    obtain ⟨v, found⟩ := (mem_iff s k).1 (Std.ExtTreeMap.mem_keys.1 member)
    exact Std.ExtTreeMap.mem_keys.2 (mem_of_getElem? (subset k v found))
  have length : t.keys.length = s.keys.length := by
    rw [Std.ExtTreeMap.length_keys, Std.ExtTreeMap.length_keys, size]
  have perm : s.keys.Perm t.keys :=
    (List.subperm_of_subset Std.ExtTreeMap.nodup_keys keys).perm_of_length_le (Nat.le_of_eq length)
  apply ext
  intro k
  cases found : s[k]? with
  | some v => exact (subset k v found).symm
  | none =>
    have absent := (getElem?_eq_none_iff s k).1 found
    rw [eq_comm, getElem?_eq_none_iff]
    intro member
    exact absent (Std.ExtTreeMap.mem_keys.1 (perm.mem_iff.2 (Std.ExtTreeMap.mem_keys.2 member)))

/-! ### Entries and values -/

/-- The entries under one key are listed as the one that lookup finds. -/
theorem filter_toList (t : Table α) (k : String) :
    t.toList.filter (·.1 == k) = (t[k]?.map fun v => (k, v)).toList := by
  cases found : t[k]? with
  | none =>
    refine List.filter_eq_nil_iff.2 fun entry member named => ?_
    have under := Std.ExtTreeMap.mem_toList_iff_getElem?_eq_some.1 member
    rw [beq_iff_eq.1 named, found] at under
    cases under
  | some v =>
    have distinct : t.toList.Nodup := by
      apply List.Nodup.of_map Prod.fst
      rw [Std.ExtTreeMap.map_fst_toList_eq_keys]
      exact Std.ExtTreeMap.nodup_keys
    refine List.perm_singleton.1 ((List.perm_ext_iff_of_nodup ?_ ?_).2 ?_)
    · exact distinct.filter _
    · exact List.nodup_singleton _
    · rintro ⟨j, w⟩
      rw [List.mem_filter, List.mem_singleton, Std.ExtTreeMap.mem_toList_iff_getElem?_eq_some,
        beq_iff_eq, Prod.mk.injEq]
      constructor
      · rintro ⟨under, rfl⟩
        rw [found, Option.some.injEq] at under
        exact ⟨rfl, under.symm⟩
      · rintro ⟨rfl, rfl⟩
        exact ⟨found, rfl⟩

theorem values_eq_map_toList (t : Table α) : t.values = t.toList.map (·.2) := by
  -- The values are defined on the tree below the table, so the table is taken apart.
  obtain ⟨⟨⟨tree⟩⟩⟩ := t
  change tree.inner.values = (Std.DTreeMap.Internal.Impl.Const.toList tree.inner).map (·.2)
  rw [Std.DTreeMap.Internal.Impl.values_eq_map_snd,
    Std.DTreeMap.Internal.Impl.Const.toList_eq_toListModel_map, List.map_map]
  rfl

theorem values_map {β : Type} (f : α → β) (t : Table α) :
    (t.map fun _ v => f v).values = t.values.map f := by
  rw [values_eq_map_toList, values_eq_map_toList, Std.ExtTreeMap.toList_map, List.map_map,
    List.map_map]
  rfl

theorem mem_values (t : Table α) (v : α) : v ∈ t.values ↔ ∃ k : String, t[k]? = some v := by
  simp [values_eq_map_toList, Std.ExtTreeMap.mem_toList_iff_getElem?_eq_some]

/-- In a table where every value knows its key, the values are listed like the keys. -/
theorem map_values_eq_keys {t : Table α} {key : α → String}
    (keyed : ∀ (k : String) (v : α), t[k]? = some v → key v = k) : t.values.map key = t.keys := by
  rw [values_eq_map_toList, List.map_map, ← Std.ExtTreeMap.map_fst_toList_eq_keys]
  apply List.map_congr_left
  intro entry member
  exact keyed _ _ (Std.ExtTreeMap.mem_toList_iff_getElem?_eq_some.1 member)

theorem values_nodup {t : Table α} {key : α → String}
    (keyed : ∀ (k : String) (v : α), t[k]? = some v → key v = k) : t.values.Nodup :=
  List.Nodup.of_map key (map_values_eq_keys keyed ▸ Std.ExtTreeMap.nodup_keys)

/-- Values sorted by a field whose values are all among distinct texts: each value is
in exactly one of the lists. -/
theorem flatMap_filter_perm (field : α → String) {texts : List String} (distinct : texts.Nodup)
    (values : List α) (covered : ∀ v ∈ values, field v ∈ texts) :
    (texts.flatMap fun text => values.filter (field · == text)).Perm values := by
  induction texts generalizing values with
  | nil =>
    have : values = [] := List.eq_nil_iff_forall_not_mem.2 fun v member => by
      simpa using covered v member
    rw [this]
    simp
  | cons text texts ih =>
    obtain ⟨fresh, distinct⟩ := List.nodup_cons.1 distinct
    have others : ∀ other ∈ texts, values.filter (field · == other) =
        (values.filter fun v => !(field v == text)).filter (field · == other) := by
      intro other member
      rw [List.filter_filter]
      apply List.filter_congr
      intro v _
      by_cases equal : field v = other
      · have : other ≠ text := fun same => fresh (same ▸ member)
        simp [equal, this]
      · simp [equal]
    rw [List.flatMap_cons, List.flatMap_congr others]
    refine (List.Perm.append_left _ (ih distinct _ ?_)).trans (List.filter_append_perm _ _)
    intro v member
    obtain ⟨member, other⟩ := List.mem_filter.1 member
    simpa [show field v ≠ text by simpa using other] using covered v member

end Table

/-! ### Folds -/

/-- What every step of a fold keeps, the fold keeps. -/
theorem foldl_keeps {σ ε β : Type} (field : σ → β) {f : σ → ε → σ}
    (kept : ∀ s e, field (f s e) = field s) (s : σ) (l : List ε) :
    field (l.foldl f s) = field s := by
  induction l generalizing s with
  | nil => rfl
  | cons e l ih => rw [List.foldl_cons, ih, kept]

/-- A fold in which each element changes what is under its own key only. What is under a
    key in the end comes from folding over the elements with that key. -/
theorem foldl_lookup {σ ε β : Type} (lookup : σ → String → β) {key : ε → String}
    {change : β → ε → β} {f : σ → ε → σ}
    (each : ∀ s e k, lookup (f s e) k = if key e = k then change (lookup s k) e else lookup s k)
    (s : σ) (l : List ε) (k : String) :
    lookup (l.foldl f s) k = (l.filter (key · == k)).foldl change (lookup s k) := by
  induction l generalizing s with
  | nil => rfl
  | cons e l ih =>
    rw [List.foldl_cons, ih, each]
    by_cases equal : key e = k
    · rw [if_pos equal, List.filter_cons_of_pos (by simpa using equal), List.foldl_cons]
    · rw [if_neg equal, List.filter_cons_of_neg (by simpa using equal)]

end PodCache
