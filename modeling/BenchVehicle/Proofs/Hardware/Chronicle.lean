import BenchVehicle.Proofs.Hardware.Coherence
import BenchVehicle.Proofs.Store.History

/-!
# Chronicles

How a bench came about, as far as its store is concerned: each step of the start and each effect
since then performed an operation on the store or did nothing to it that shows. The operations, from
the latest back, are a history of the store, so what the store holds can be told from them.
-/

namespace BenchVehicle

open Hardware

namespace Store

/-- What leads from one store to another that adds to its history. -/
inductive Advances (s t : Store) : History → Prop where
  /-- Nothing that shows. -/
  | idle (h : Same s t) : Advances s t []
  /-- An operation. -/
  | performed (o : Operation) (h : (s.perform o).2 = t) : Advances s t [(o, (s.perform o).1)]

variable {s t : Store} {past latest : History}

/-- What leads from one store to another goes into its history. -/
theorem Records.advances (hr : Records past s) (h : Advances s t latest) :
    Records (latest ++ past) t := by
  cases h with
  | idle h => exact hr.of_same h
  | performed o h => exact h ▸ hr.perform o

/-- A write that is taken leads from one store to another. -/
theorem advances_write {v : PropertyValue} {updateStatus : Bool} {change : Option PropertyValue}
    (h : s.write v updateStatus = .ok (t, change)) : ∃ latest, Advances s t latest :=
  ⟨_, .performed (.write v updateStatus) (by simp only [perform, h])⟩

end Store

namespace Hardware

open Store

variable {hw hw' : Hardware} {past : History} {given : List PropertyValue}

/-- Every step of the start adds to the history of the store, or nothing shows of it. -/
theorem StartStep.advances (h : StartStep given hw hw') :
    ∃ latest, hw.store.Advances hw'.store latest := by
  cases h with
  | declared config => exact ⟨_, .performed (.register config (tokenRule config.prop)) rfl⟩
  | written hwrite => exact advances_write hwrite
  | used => exact ⟨_, .idle (.of_records rfl)⟩

/-- Every effect adds to the history of the store, or nothing shows of it. -/
theorem Effect.advances (h : Effect hw hw') : ∃ latest, hw.store.Advances hw'.store latest := by
  cases h with
  | quiet h => exact ⟨_, .idle h.store⟩
  | wrote v updateStatus change store => exact advances_write store
  | removed v store => exact ⟨_, .performed (.remove v) store.symm⟩
  | removedAll prop store => exact ⟨_, .performed (.removeAll prop) store.symm⟩
  | saved key v found store => exact ⟨_, .idle store⟩
  | took key v found store => exact ⟨_, .idle store⟩
  | told event store => exact ⟨_, .idle store⟩

/-- How a bench came about, with the operations on its store, the latest first. -/
inductive Chronicle : History → Hardware → Prop where
  /-- It is new. -/
  | new (pool : ValuePool) (clock : Clock) : Chronicle [] { store := { pool }, clock }
  /-- A step of the start was taken. -/
  | started {past latest : History} {given : List PropertyValue} {hw hw' : Hardware}
      (h : Chronicle past hw) (hstep : StartStep given hw hw')
      (hstore : hw.store.Advances hw'.store latest) : Chronicle (latest ++ past) hw'
  /-- There was an effect. -/
  | affected {past latest : History} {hw hw' : Hardware} (h : Chronicle past hw)
      (heffect : Effect hw hw') (hstore : hw.store.Advances hw'.store latest) :
      Chronicle (latest ++ past) hw'

/-- A chronicle tells what the store holds. -/
theorem Chronicle.records (h : Chronicle past hw) : Records past hw.store := by
  induction h with
  | new pool clock => exact records_nil pool
  | started _ _ hstore ih => exact ih.advances hstore
  | affected _ _ hstore ih => exact ih.advances hstore

/-- A bench that has a chronicle has one after steps of the start. -/
theorem exists_chronicle_of_starts (h : Starts given hw hw') (hpast : ∃ past, Chronicle past hw) :
    ∃ past, Chronicle past hw' := by
  refine h.keeps (P := fun hw => ∃ past, Chronicle past hw) (fun hw hw' hstep hpast => ?_) hpast
  obtain ⟨past, hchronicle⟩ := hpast
  obtain ⟨latest, hstore⟩ := hstep.advances
  exact ⟨_, hchronicle.started hstep hstore⟩

/-- A bench that has a chronicle has one after effects. -/
theorem exists_chronicle_of_reaches (h : Reaches hw hw') (hpast : ∃ past, Chronicle past hw) :
    ∃ past, Chronicle past hw' := by
  refine h.keeps (P := fun hw => ∃ past, Chronicle past hw) (fun hw hw' heffect hpast => ?_) hpast
  obtain ⟨past, hchronicle⟩ := hpast
  obtain ⟨latest, hstore⟩ := heffect.advances
  exact ⟨_, hchronicle.affected heffect hstore⟩

/-- Every bench that comes about has a chronicle. -/
theorem Reachable.exists_chronicle (h : Reachable hw) : ∃ past, Chronicle past hw := by
  obtain ⟨declarations, overrides, clock, pool, history, rfl⟩ := h
  have hstarts := starts_ofDeclarations declarations overrides clock pool
  have hstarted := exists_chronicle_of_starts hstarts ⟨[], .new pool clock⟩
  exact exists_chronicle_of_reaches (reaches_run _ history) hstarted

end Hardware

end BenchVehicle
