import BenchVehicle.Proofs.Store.Slots

/-!
# The pool of a store

What a store hands out comes from its pool, and what it gives up goes there. Neither shows: with
another pool a store gives the same answers and announcements and holds the same values. A pool that
holds no more values than it may never comes to hold more.
-/

namespace BenchVehicle

namespace ValuePool

variable {pool mid pool' : ValuePool}

/-- That values were taken from a pool at most. -/
structure Lent (pool pool' : ValuePool) : Prop where
  /-- It may hold as many values as before. -/
  capacity : pool'.capacity = pool.capacity
  /-- It does not hold more. -/
  count : pool'.count ≤ pool.count

/-- Nothing is taken where nothing happens. -/
theorem Lent.refl (pool : ValuePool) : Lent pool pool := ⟨rfl, Nat.le_refl _⟩

/-- At most one value is taken out. -/
theorem lent_take (pool : ValuePool) : Lent pool pool.take.2 := by
  unfold take
  split
  · exact .refl pool
  · next v rest h =>
    have hcount : rest.length ≤ pool.free.length := by
      rw [h]
      exact Nat.le_succ _
    exact ⟨rfl, hcount⟩

/-- A blank value is taken out at most. -/
theorem lent_obtain (pool : ValuePool) (prop area : Int32) :
    Lent pool (pool.obtain prop area).2 := by
  have h := lent_take pool
  unfold obtain
  split <;> next htake =>
    rw [htake] at h
    exact h

/-- A copy takes a value out at most. -/
theorem lent_copy (pool : ValuePool) (source : PropertyValue) : Lent pool (pool.copy source).2 := by
  have h := lent_take pool
  unfold copy
  split <;> next htake =>
    rw [htake] at h
    exact h

/-- That a pool which holds no more than it may still does so, and may hold as much as before. -/
structure Within (pool pool' : ValuePool) : Prop where
  /-- It may hold as many values as before. -/
  capacity : pool'.capacity = pool.capacity
  /-- It stays within its capacity. -/
  count : pool.count ≤ pool.capacity → pool'.count ≤ pool'.capacity

/-- A pool keeps within its capacity through two steps if it does through each. -/
theorem Within.trans (h : Within pool mid) (h' : Within mid pool') : Within pool pool' :=
  ⟨h'.capacity.trans h.capacity, fun hcount => h'.count (h.count hcount)⟩

/-- A pool within its capacity stays within that of before. -/
theorem Within.bound (h : Within pool pool') (hcount : pool.count ≤ pool.capacity) :
    pool'.count ≤ pool.capacity := h.capacity ▸ h.count hcount

/-- A pool from which values are taken keeps within its capacity. -/
theorem Lent.within (h : Lent pool pool') : Within pool pool' :=
  ⟨h.capacity, fun hcount => h.capacity.symm ▸ Nat.le_trans h.count hcount⟩

/-- A value is only put back where there is room. -/
theorem within_recycle (pool : ValuePool) (v : PropertyValue) : Within pool (pool.recycle v) where
  capacity := by
    unfold recycle
    split <;> rfl
  count h := count_recycle_le h v

/-- Values are only put back where there is room. -/
theorem within_recycleAll (pool : ValuePool) (vs : List PropertyValue) :
    Within pool (pool.recycleAll vs) := by
  induction vs generalizing pool with
  | nil => exact (Lent.refl pool).within
  | cons v rest ih => exact (within_recycle pool v).trans (ih (pool.recycle v))

end ValuePool

namespace Store

variable {α : Type}

/-- The store with another pool. -/
def withPool (s : Store) (pool : ValuePool) : Store := { s with pool }

/-- The last pool counts. -/
@[simp] theorem withPool_withPool (s : Store) (pool pool' : ValuePool) :
    (s.withPool pool).withPool pool' = s.withPool pool' := rfl

/-- Stores with the same records differ in their pools at most. -/
theorem eq_withPool {s t : Store} (h : t.records = s.records) : t = s.withPool t.pool := by
  obtain ⟨records, pool⟩ := t
  cases h
  rfl

/-! ## What is handed out -/

/-- That a computation does no more to a store than take a value from its pool, and what it gives has
nothing to do with the pool. -/
structure HandsOut (f : Store → Except Failure α × Store) : Prop where
  /-- The records stay as they are. -/
  records : ∀ s, (f s).2.records = s.records
  /-- Values are taken from the pool at most. -/
  lent : ∀ s : Store, s.pool.Lent (f s).2.pool
  /-- The pool does not matter. -/
  blind : ∀ s pool, (f (s.withPool pool)).1 = (f s).1

/-- A look at the records takes nothing from the pool. -/
theorem handsOut_look {look : Store → Except Failure α}
    (h : ∀ s pool, look (s.withPool pool) = look s) : HandsOut fun s => (look s, s) where
  records _ := rfl
  lent s := .refl s.pool
  blind := h

/-- What is found without the pool is handed out as a copy. -/
theorem handsOut_found {find : Store → Except Failure PropertyValue}
    (h : ∀ s pool, find (s.withPool pool) = find s) : HandsOut fun s => s.handOut (find s) where
  records s := s.records_handOut _
  lent s := by
    cases find s with
    | error e => exact .refl s.pool
    | ok v => exact ValuePool.lent_copy s.pool v
  blind s pool := by rw [fst_handOut, fst_handOut, h]

/-- A copy is handed out. -/
theorem handsOut_copy (v : PropertyValue) :
    HandsOut fun s => (.ok (s.pool.copy v).1, { s with pool := (s.pool.copy v).2 }) where
  records _ := rfl
  lent s := ValuePool.lent_copy s.pool v
  blind s pool := by rw [ValuePool.fst_copy, ValuePool.fst_copy]

/-- A blank value is handed out. -/
theorem handsOut_blank (prop area : Int32) :
    HandsOut fun s => (.ok (s.pool.obtain prop area).1,
      { s with pool := (s.pool.obtain prop area).2 }) where
  records _ := rfl
  lent s := ValuePool.lent_obtain s.pool prop area
  blind s pool := by rw [ValuePool.fst_obtain, ValuePool.fst_obtain]

/-! ## What is given up -/

/-- A record that is put in gives up values within the capacity. -/
theorem within_giveUp_withRecord (s : Store) (r : Record) (vs : List PropertyValue) :
    s.pool.Within ((s.withRecord r).giveUp vs).pool := ValuePool.within_recycleAll s.pool vs

/-- A declaration gives up values within the capacity. -/
theorem within_register (s : Store) (config : PropertyConfig) (token : TokenRule) :
    s.pool.Within (s.register config token).pool := s.within_giveUp_withRecord _ _

/-- A write that is taken gives up the old value within the capacity. -/
theorem within_write {s t : Store} {v : PropertyValue} {updateStatus : Bool}
    {change : Option PropertyValue} (h : s.write v updateStatus = .ok (t, change)) :
    s.pool.Within t.pool := by
  cases hr : s.records.get? v.prop with
  | none =>
    rw [write_of_undeclared (rules?_eq_none.mpr hr)] at h
    cases h
  | some r =>
    rw [write_of_record hr] at h
    split at h
    · cases h
    split at h
    · cases h
    · cases h
      exact s.within_giveUp_withRecord _ _

/-- A removal gives up a value within the capacity. -/
theorem within_remove (s : Store) (v : PropertyValue) : s.pool.Within (s.remove v).pool := by
  unfold remove removeSlot
  split
  · split
    · exact s.within_giveUp_withRecord _ _
    · exact (ValuePool.Lent.refl s.pool).within
  · exact (ValuePool.Lent.refl s.pool).within

/-- The removal of all values of a property gives them up within the capacity. -/
theorem within_removeAll (s : Store) (prop : Int32) : s.pool.Within (s.removeAll prop).pool := by
  unfold removeAll
  split
  · exact s.within_giveUp_withRecord _ _
  · exact (ValuePool.Lent.refl s.pool).within

/-! ## With another pool -/

/-- A declaration does not depend on the pool. -/
theorem register_withPool (s : Store) (pool : ValuePool) (config : PropertyConfig)
    (token : TokenRule) :
    ∃ pool', (s.withPool pool).register config token = (s.register config token).withPool pool' :=
  ⟨_, eq_withPool rfl⟩

/-- Whether a write is taken, and what it changes, does not depend on the pool. -/
theorem write_withPool (s : Store) (pool : ValuePool) (v : PropertyValue) (updateStatus : Bool) :
    ∃ pool', (s.withPool pool).write v updateStatus =
      (s.write v updateStatus).map fun r => (r.1.withPool pool', r.2) := by
  cases hr : s.records.get? v.prop with
  | none =>
    have hundeclared : s.rules? v.prop = none := rules?_eq_none.mpr hr
    refine ⟨pool, ?_⟩
    rw [write_of_undeclared hundeclared, write_of_undeclared (s := s.withPool pool) hundeclared]
    rfl
  | some r =>
    have hr' : (s.withPool pool).records.get? v.prop = some r := hr
    rw [write_of_record hr, write_of_record hr']
    split
    · exact ⟨pool, rfl⟩
    split
    · exact ⟨pool, rfl⟩
    · exact ⟨pool.recycleAll (r.values.get? (r.slotOf v)).toList, rfl⟩

/-- A removal does not depend on the pool. -/
theorem remove_withPool (s : Store) (pool : ValuePool) (v : PropertyValue) :
    ∃ pool', (s.withPool pool).remove v = (s.remove v).withPool pool' := by
  refine ⟨_, eq_withPool ?_⟩
  unfold remove removeSlot withPool
  dsimp only
  split
  · split <;> rfl
  · rfl

/-- The removal of all values of a property does not depend on the pool. -/
theorem removeAll_withPool (s : Store) (pool : ValuePool) (prop : Int32) :
    ∃ pool', (s.withPool pool).removeAll prop = (s.removeAll prop).withPool pool' := by
  refine ⟨_, eq_withPool ?_⟩
  unfold removeAll withPool
  dsimp only
  split <;> rfl

/-- What is handed out, with another pool. -/
theorem HandsOut.withPool {f : Store → Except Failure α × Store} (h : HandsOut f) (s : Store)
    (pool : ValuePool) : ∃ pool', f (s.withPool pool) = ((f s).1, (f s).2.withPool pool') := by
  have hrecords : (f (s.withPool pool)).2.records = (f s).2.records :=
    (h.records (s.withPool pool)).trans (h.records s).symm
  exact ⟨(f (s.withPool pool)).2.pool, Prod.ext (h.blind s pool) (eq_withPool hrecords)⟩

/-! ## Operations -/

/-- A read hands out what is found. -/
theorem handsOut_read (request : PropertyValue) : HandsOut fun s => s.read request :=
  handsOut_found fun _ _ => rfl

/-- So does a read by token. -/
theorem handsOut_readToken (prop area : Int32) (token : Int64) :
    HandsOut fun s => s.readToken prop area token :=
  handsOut_found fun _ _ => rfl

/-- No operation tells stores apart that differ in their pools. -/
theorem perform_withPool (s : Store) (pool : ValuePool) (o : Operation) :
    ∃ pool', (s.withPool pool).perform o = ((s.perform o).1, (s.perform o).2.withPool pool') := by
  cases o with
  | register config token =>
    obtain ⟨pool', h⟩ := s.register_withPool pool config token
    exact ⟨pool', by simp only [perform, h]⟩
  | write v updateStatus =>
    obtain ⟨pool', h⟩ := s.write_withPool pool v updateStatus
    cases hwrite : s.write v updateStatus with
    | error e =>
      rw [hwrite] at h
      exact ⟨pool, by simp only [perform, h, hwrite, Except.map]⟩
    | ok r =>
      rw [hwrite] at h
      exact ⟨pool', by simp only [perform, h, hwrite, Except.map]⟩
  | remove v =>
    obtain ⟨pool', h⟩ := s.remove_withPool pool v
    exact ⟨pool', by simp only [perform, h]⟩
  | removeAll prop =>
    obtain ⟨pool', h⟩ := s.removeAll_withPool pool prop
    exact ⟨pool', by simp only [perform, h]⟩
  | read request =>
    obtain ⟨pool', h⟩ := (handsOut_read request).withPool s pool
    exact ⟨pool', by simp only [perform, h]⟩
  | readToken prop area token =>
    obtain ⟨pool', h⟩ := (handsOut_readToken prop area token).withPool s pool
    exact ⟨pool', by simp only [perform, h]⟩
  | valuesOf prop => exact ⟨pool, rfl⟩
  | allValues => exact ⟨pool, rfl⟩
  | config prop => exact ⟨pool, rfl⟩
  | configs => exact ⟨pool, rfl⟩

/-- A history gives the same reports with another pool and leaves the same records. -/
theorem run_withPool (s : Store) (pool : ValuePool) (operations : List Operation) :
    ∃ pool', (s.withPool pool).run operations =
      ((s.run operations).1, (s.run operations).2.withPool pool') := by
  induction operations generalizing s pool with
  | nil => exact ⟨pool, rfl⟩
  | cons o rest ih =>
    obtain ⟨mid, hperform⟩ := s.perform_withPool pool o
    obtain ⟨pool', hrest⟩ := ih (s.perform o).2 mid
    exact ⟨pool', by simp only [run, hperform, hrest]⟩

/-- Every operation of a store keeps the pool within its capacity. -/
theorem within_perform (s : Store) (o : Operation) : s.pool.Within (s.perform o).2.pool := by
  cases o with
  | register config token => exact s.within_register config token
  | write v updateStatus =>
    cases h : s.write v updateStatus with
    | error e =>
      simp only [perform, h]
      exact (ValuePool.Lent.refl s.pool).within
    | ok r =>
      simp only [perform, h]
      exact within_write h
  | remove v => exact s.within_remove v
  | removeAll prop => exact s.within_removeAll prop
  | read request => exact ((handsOut_read request).lent s).within
  | readToken prop area token => exact ((handsOut_readToken prop area token).lent s).within
  | valuesOf prop => exact (ValuePool.Lent.refl s.pool).within
  | allValues => exact (ValuePool.Lent.refl s.pool).within
  | config prop => exact (ValuePool.Lent.refl s.pool).within
  | configs => exact (ValuePool.Lent.refl s.pool).within

/-- The pool of a store keeps within the capacity that it started with. -/
theorem within_run (s : Store) (operations : List Operation) :
    s.pool.Within (s.run operations).2.pool := by
  induction operations generalizing s with
  | nil => exact (ValuePool.Lent.refl s.pool).within
  | cons o rest ih => exact (s.within_perform o).trans (ih (s.perform o).2)

end Store

end BenchVehicle
