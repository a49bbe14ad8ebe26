import BenchVehicle.Property.Value

/-!
# The value pool

Values that a store gives up are kept for reuse, up to a capacity. A value taken from the pool is
made over completely, so what it held before never shows; only the number of kept values does.
-/

namespace BenchVehicle

/-- Values kept for reuse. -/
structure ValuePool where
  /-- How many values are kept at most. -/
  capacity : Nat := 64
  /-- The kept values, the last one given back first. -/
  free : List PropertyValue := []
  deriving Inhabited

namespace ValuePool

/-- A pool that keeps up to `capacity` values and starts with none. -/
def withCapacity (capacity : Nat) : ValuePool := { capacity }

/-- The number of kept values. -/
def count (pool : ValuePool) : Nat := pool.free.length

/-- The value kept last, and the pool without it. -/
def take (pool : ValuePool) : Option PropertyValue × ValuePool :=
  match pool.free with
  | [] => (none, pool)
  | v :: rest => (some v, { pool with free := rest })

/-- A kept value made over into an empty one. -/
def clearFor (prop area : Int32) (used : PropertyValue) : PropertyValue :=
  { used with
    prop := prop
    area := area
    timestamp := 0
    status := .available
    payload := { used.payload with int32s := [], int64s := [], floats := [], string := "", bytes := [] } }

/-- A kept value made over into a copy. -/
def assignFrom (source used : PropertyValue) : PropertyValue :=
  { used with
    prop := source.prop
    area := source.area
    timestamp := source.timestamp
    status := source.status
    payload := source.payload }

/-- An empty value, from the pool if it keeps one. -/
def obtain (pool : ValuePool) (prop area : Int32) : PropertyValue × ValuePool :=
  match pool.take with
  | (some used, rest) => (clearFor prop area used, rest)
  | (none, rest) => (.ofKey prop area, rest)

/-- A copy of a value, from the pool if it keeps one. -/
def copy (pool : ValuePool) (source : PropertyValue) : PropertyValue × ValuePool :=
  match pool.take with
  | (some used, rest) => (assignFrom source used, rest)
  | (none, rest) => (source, rest)

/-- What the pool held before does not show in an empty value. -/
theorem fst_obtain (pool : ValuePool) (prop area : Int32) :
    (pool.obtain prop area).1 = .ofKey prop area := by
  unfold obtain
  split <;> rfl

/-- What the pool held before does not show in a copy. -/
theorem fst_copy (pool : ValuePool) (source : PropertyValue) : (pool.copy source).1 = source := by
  unfold copy
  split <;> rfl

/-- The pool with a value given back; a full pool drops it. -/
def recycle (pool : ValuePool) (v : PropertyValue) : ValuePool :=
  if pool.count < pool.capacity then { pool with free := v :: pool.free } else pool

/-- Giving a value back fills the pool up to its capacity at most. -/
theorem count_recycle_le {pool : ValuePool} (h : pool.count ≤ pool.capacity) (v : PropertyValue) :
    (pool.recycle v).count ≤ (pool.recycle v).capacity := by
  unfold recycle
  split
  · assumption
  · exact h

/-- The pool with values given back one after the other. -/
def recycleAll (pool : ValuePool) (vs : List PropertyValue) : ValuePool := vs.foldl recycle pool

end ValuePool

end BenchVehicle
