/-!
# Maps with keys in order

A finite map as a list of entries with ascending keys. The two statements about look-up after
`insert` and `erase` need no order at all: they hold of any list of entries, so the order of the
keys matters only to `toList` and `keys`.
-/

namespace BenchVehicle

/-- A finite map from `κ` to `α`. -/
structure SortedMap (κ : Type) (α : Type) where
  /-- The entries, in ascending order of their keys. -/
  toList : List (κ × α)
  deriving DecidableEq

namespace SortedMap

variable {κ α : Type}

/-- The map without entries. -/
def empty : SortedMap κ α := ⟨[]⟩

instance : Inhabited (SortedMap κ α) := ⟨empty⟩

/-- Whether there is no entry. -/
def isEmpty (m : SortedMap κ α) : Bool := m.toList.isEmpty

/-- The number of entries. -/
def size (m : SortedMap κ α) : Nat := m.toList.length

/-- The keys, in ascending order. -/
def keys (m : SortedMap κ α) : List κ := m.toList.map Prod.fst

/-- The values, in the order of their keys. -/
def values (m : SortedMap κ α) : List α := m.toList.map Prod.snd

/-- The value of the first entry with a key. -/
def lookup [DecidableEq κ] (k : κ) : List (κ × α) → Option α
  | [] => none
  | (j, a) :: rest => if k = j then some a else lookup k rest

/-- The value under a key. -/
def get? [DecidableEq κ] (m : SortedMap κ α) (k : κ) : Option α := lookup k m.toList

/-- Whether there is an entry under a key. -/
def contains [DecidableEq κ] (m : SortedMap κ α) (k : κ) : Bool := (m.get? k).isSome

/-- Entries with a value put under a key, before the first larger key. -/
def insertEntry [DecidableEq κ] [LT κ] [DecidableLT κ] (k : κ) (a : α) :
    List (κ × α) → List (κ × α)
  | [] => [(k, a)]
  | (j, b) :: rest =>
    if k = j then (k, a) :: rest
    else if k < j then (k, a) :: (j, b) :: rest
    else (j, b) :: insertEntry k a rest

/-- The map with a value put under a key. -/
def insert [DecidableEq κ] [LT κ] [DecidableLT κ] (m : SortedMap κ α) (k : κ) (a : α) :
    SortedMap κ α :=
  ⟨insertEntry k a m.toList⟩

/-- The map without any entry under a key. -/
def erase [DecidableEq κ] (m : SortedMap κ α) (k : κ) : SortedMap κ α :=
  ⟨m.toList.filter fun e => e.1 ≠ k⟩

/-- The map of a list of entries, of which a later one replaces an earlier one. -/
def ofList [DecidableEq κ] [LT κ] [DecidableLT κ] (entries : List (κ × α)) : SortedMap κ α :=
  entries.foldl (fun m e => m.insert e.1 e.2) empty

section Lookup

variable [DecidableEq κ]

/-- Nothing is found in an empty map. -/
@[simp] theorem get?_empty (k : κ) : (empty : SortedMap κ α).get? k = none := rfl

/-- The inserted value is found under its key, and the others as before. -/
theorem lookup_insertEntry [LT κ] [DecidableLT κ] (k j : κ) (a : α) (entries : List (κ × α)) :
    lookup j (insertEntry k a entries) = if j = k then some a else lookup j entries := by
  induction entries with
  | nil => rfl
  | cons entry rest ih =>
    obtain ⟨i, b⟩ := entry
    unfold insertEntry
    split
    · next h => subst h; simp only [lookup]; split <;> rfl
    · split
      · simp only [lookup]
      · next hki _ =>
        simp only [lookup, ih]
        split
        · next hji => subst hji; rw [if_neg (Ne.symm hki)]
        · rfl

/-- After an insertion the key holds the new value and every other key what it held. -/
theorem get?_insert [LT κ] [DecidableLT κ] (m : SortedMap κ α) (k j : κ) (a : α) :
    (m.insert k a).get? j = if j = k then some a else m.get? j :=
  lookup_insertEntry k j a m.toList

/-- Nothing is found under an erased key, and the others as before. -/
theorem lookup_filter_ne (k j : κ) (entries : List (κ × α)) :
    lookup j (entries.filter fun e => e.1 ≠ k) = if j = k then none else lookup j entries := by
  induction entries with
  | nil => simp [lookup]
  | cons entry rest ih =>
    obtain ⟨i, b⟩ := entry
    rw [List.filter_cons]
    by_cases hik : i = k
    · subst hik
      simp only [ne_eq, not_true_eq_false, decide_false, Bool.false_eq_true, if_false]
      rw [ih]
      simp only [lookup]
      split <;> rfl
    · simp only [ne_eq, hik, not_false_eq_true, decide_true, if_true, lookup, ih]
      split
      · next hji => subst hji; rw [if_neg hik]
      · rfl

/-- After an erasure the key holds nothing and every other key what it held. -/
theorem get?_erase (m : SortedMap κ α) (k j : κ) :
    (m.erase k).get? j = if j = k then none else m.get? j :=
  lookup_filter_ne k j m.toList

end Lookup

end SortedMap

end BenchVehicle
