import BenchVehicle.SortedMap
import Mathlib.Logic.Basic
import Mathlib.Order.Defs.LinearOrder

/-!
# Keys and values of a map

Insertion and erasure keep the keys of a map in ascending order. A map in order has each key once,
so the number of its entries is the number of keys under which something is found. Replacing each
value by a function of it goes along with all operations on a map.
-/

namespace BenchVehicle.SortedMap

variable {κ α : Type}

/-- There are as many keys as entries. -/
theorem length_keys (m : SortedMap κ α) : m.keys.length = m.size := List.length_map _

section Keys

variable [DecidableEq κ]

/-- Nothing is found under a key that is not there. -/
theorem lookup_eq_none_iff {k : κ} {entries : List (κ × α)} :
    lookup k entries = none ↔ k ∉ entries.map Prod.fst := by
  induction entries with
  | nil => simp [lookup]
  | cons entry rest ih =>
    obtain ⟨j, a⟩ := entry
    by_cases h : k = j <;> simp [lookup, h, ih]

/-- The keys are those under which there is a value. -/
theorem mem_keys_iff {m : SortedMap κ α} {k : κ} : k ∈ m.keys ↔ ∃ a, m.get? k = some a := by
  have hnone : m.get? k = none ↔ k ∉ m.keys := lookup_eq_none_iff
  rw [← Option.ne_none_iff_exists', ne_eq, hnone, not_not]

/-- A key after an insertion is the new one or was there before. -/
theorem mem_keys_insertEntry [LT κ] [DecidableLT κ] {k j : κ} {a : α} {entries : List (κ × α)}
    (h : j ∈ (insertEntry k a entries).map Prod.fst) : j = k ∨ j ∈ entries.map Prod.fst := by
  by_cases hj : j = k
  · exact .inl hj
  · have hfound : lookup j entries ≠ none := by
      have hsame := lookup_insertEntry k j a entries
      rw [if_neg hj] at hsame
      rw [← hsame]
      exact mt lookup_eq_none_iff.mp (not_not_intro h)
    exact .inr (not_not.mp (mt lookup_eq_none_iff.mpr hfound))

/-- What is found is one of the entries. -/
theorem mem_of_lookup {k : κ} {a : α} {entries : List (κ × α)} (h : lookup k entries = some a) :
    (k, a) ∈ entries := by
  induction entries with
  | nil => cases h
  | cons entry rest ih =>
    unfold lookup at h
    split at h
    · next hk =>
      cases h
      exact hk ▸ List.mem_cons_self
    · exact List.mem_cons_of_mem _ (ih h)

/-- Each entry is found if no key is there twice. -/
theorem lookup_of_mem {k : κ} {a : α} {entries : List (κ × α)}
    (hnodup : (entries.map Prod.fst).Nodup) (h : (k, a) ∈ entries) : lookup k entries = some a := by
  induction entries with
  | nil => cases h
  | cons entry rest ih =>
    obtain ⟨hfresh, hrest⟩ := List.nodup_cons.mp hnodup
    unfold lookup
    rcases List.mem_cons.mp h with rfl | h
    · exact if_pos rfl
    · have hne : k ≠ entry.1 := by
        rintro rfl
        exact hfresh (List.mem_map.mpr ⟨_, h, rfl⟩)
      rw [if_neg hne]
      exact ih hrest h

/-- The entries of a map without repeated keys are what is found in it. -/
theorem mem_toList_iff {m : SortedMap κ α} (hnodup : m.keys.Nodup) {k : κ} {a : α} :
    (k, a) ∈ m.toList ↔ m.get? k = some a := ⟨lookup_of_mem hnodup, mem_of_lookup⟩

end Keys

section Order

variable [LT κ]

/-- That the keys ascend. -/
def Ordered (m : SortedMap κ α) : Prop := m.keys.Pairwise (· < ·)

/-- The keys of an empty map ascend. -/
theorem ordered_empty : (empty : SortedMap κ α).Ordered := List.Pairwise.nil

/-- No key occurs twice. -/
theorem Ordered.nodup [Std.Irrefl (@LT.lt κ _)] {m : SortedMap κ α} (h : m.Ordered) :
    m.keys.Nodup := by
  refine List.Pairwise.imp (fun {j k} hjk => ?_) h
  rintro rfl
  exact Std.Irrefl.irrefl _ hjk

/-- An erasure leaves the keys ascending. -/
theorem Ordered.erase [DecidableEq κ] {m : SortedMap κ α} (h : m.Ordered) (k : κ) :
    (m.erase k).Ordered := by
  have hsub : (m.erase k).keys.Sublist m.keys := List.filter_sublist.map Prod.fst
  exact List.Pairwise.sublist hsub h

variable [DecidableEq κ] [DecidableLT κ]
  [Std.Trichotomous (@LT.lt κ _)] [Trans (@LT.lt κ _) (@LT.lt κ _) (@LT.lt κ _)]

/-- An entry that is put in before the first larger key leaves the keys ascending. -/
theorem pairwise_insertEntry {k : κ} {a : α} {entries : List (κ × α)}
    (h : (entries.map Prod.fst).Pairwise (· < ·)) :
    ((insertEntry k a entries).map Prod.fst).Pairwise (· < ·) := by
  induction entries with
  | nil => exact List.pairwise_singleton _ k
  | cons entry rest ih =>
    obtain ⟨j, b⟩ := entry
    obtain ⟨hfirst, hrest⟩ := List.pairwise_cons.mp h
    unfold insertEntry
    split
    · next hkj =>
      subst hkj
      exact h
    · next hne =>
      split
      · next hkj =>
        refine List.pairwise_cons.mpr ⟨fun i hi => ?_, h⟩
        rcases List.mem_cons.mp hi with rfl | hi
        · exact hkj
        · exact Trans.trans hkj (hfirst i hi)
      · next hkj =>
        have hjk : j < k := by
          by_contra hjk
          exact hne (Std.Trichotomous.trichotomous k j hkj hjk)
        refine List.pairwise_cons.mpr ⟨fun i hi => ?_, ih hrest⟩
        rcases mem_keys_insertEntry hi with rfl | hi
        · exact hjk
        · exact hfirst i hi

/-- An insertion leaves the keys ascending. -/
theorem Ordered.insert {m : SortedMap κ α} (h : m.Ordered) (k : κ) (a : α) :
    (m.insert k a).Ordered := pairwise_insertEntry h

end Order

/-! ## Replacing values -/

section Values

variable {β : Type}

/-- The map with each value replaced. -/
def mapValues (f : α → β) (m : SortedMap κ α) : SortedMap κ β :=
  ⟨m.toList.map fun e => (e.1, f e.2)⟩

/-- An empty map has no values to replace. -/
@[simp] theorem mapValues_empty (f : α → β) : (empty : SortedMap κ α).mapValues f = empty := rfl

/-- The values of the map with each replaced are the replaced ones. -/
theorem values_mapValues (f : α → β) (m : SortedMap κ α) :
    (m.mapValues f).values = m.values.map f := by
  simp only [values, mapValues, List.map_map]
  rfl

variable [DecidableEq κ]

/-- What is found is what was found before, replaced. -/
theorem get?_mapValues (f : α → β) (m : SortedMap κ α) (k : κ) :
    (m.mapValues f).get? k = (m.get? k).map f := by
  obtain ⟨entries⟩ := m
  induction entries with
  | nil => rfl
  | cons entry rest ih =>
    have ih' : lookup k (rest.map fun e => (e.1, f e.2)) = (lookup k rest).map f := ih
    simp only [get?, mapValues, List.map_cons, lookup, ih']
    split <;> rfl

/-- Replacing goes along with erasure. -/
theorem mapValues_erase (f : α → β) (m : SortedMap κ α) (k : κ) :
    (m.erase k).mapValues f = (m.mapValues f).erase k := by
  simp only [mapValues, erase, List.filter_map]
  rfl

/-- Replacing goes along with insertion. -/
theorem mapValues_insert [LT κ] [DecidableLT κ] (f : α → β) (m : SortedMap κ α) (k : κ) (a : α) :
    (m.insert k a).mapValues f = (m.mapValues f).insert k (f a) := by
  have hentries (entries : List (κ × α)) :
      (insertEntry k a entries).map (fun e => (e.1, f e.2)) =
        insertEntry k (f a) (entries.map fun e => (e.1, f e.2)) := by
    induction entries with
    | nil => rfl
    | cons entry rest ih =>
      simp only [insertEntry, List.map_cons, apply_ite (List.map _), ih]
  exact congrArg SortedMap.mk (hentries m.toList)

end Values

end BenchVehicle.SortedMap
