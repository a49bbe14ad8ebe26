import BenchVehicle.Hardware.Startup
import BenchVehicle.Proofs.Store.Pool
import Mathlib.Logic.Relation

/-!
# The steps of the start

A bench starts as an empty one in which properties are declared and values written, with a status of
their own: they are available, unless they are given to override others. What each of these steps
keeps is true of every bench at its start. Values are stamped on the way, so it matters whether the
clock goes back.
-/

namespace BenchVehicle

/-- That a clock does not go back within so many readings after the next one. -/
def Clock.Forward (c : Clock) (readings : Nat) : Prop :=
  ∀ m n, c.reads ≤ m → m ≤ n → n ≤ c.reads + readings →
    c.reading m + c.waited ≤ c.reading n + c.waited

/-- A reading takes one of those left. -/
theorem Clock.Forward.read {c : Clock} {readings : Nat} (h : c.Forward (readings + 1)) :
    c.read.2.Forward readings := by
  intro m n hm hmn hn
  have hreads : c.read.2.reads = c.reads + 1 := rfl
  exact h m n (by omega) hmn (by omega)

/-- The next reading is not before this one. -/
theorem Clock.Forward.now_le {c : Clock} {readings : Nat} (h : c.Forward (readings + 1)) :
    c.now ≤ c.read.2.now :=
  h c.reads (c.reads + 1) (Nat.le_refl _) (Nat.le_succ _) (by omega)

/-- A clock that does not go back for long does not for a shorter while. -/
theorem Clock.Forward.of_succ {c : Clock} {readings : Nat} (h : c.Forward (readings + 1)) :
    c.Forward readings := fun m n hm hmn hn => h m n hm hmn (Nat.le_succ_of_le hn)

namespace Hardware

/-- What happens in a step of the start, at which some values are given to override others. -/
inductive StartStep (given : List PropertyValue) (hw : Hardware) : Hardware → Prop where
  /-- A property is declared. -/
  | declared (config : PropertyConfig) :
      StartStep given hw { hw with store := hw.store.register config (tokenRule config.prop) }
  /-- A value is written. -/
  | written {v : PropertyValue} {store : Store} {change : Option PropertyValue}
      (h : hw.store.write v true = .ok (store, change))
      (hstatus : v.status = .available ∨ ∃ w ∈ given, v.status = w.status) :
      StartStep given hw { hw with store }
  /-- The pool and the clock are used. -/
  | used {pool : ValuePool} (h : hw.store.pool.Lent pool) (clock : Clock) :
      StartStep given hw { hw with store := { hw.store with pool }, clock }

/-- Some steps of the start. -/
abbrev Starts (given : List PropertyValue) : Hardware → Hardware → Prop :=
  Relation.ReflTransGen (StartStep given)

variable {given : List PropertyValue}

/-- What each step of the start keeps the whole start keeps. -/
theorem Starts.keeps {P : Hardware → Prop} (hstep : ∀ hw hw', StartStep given hw hw' → P hw → P hw')
    {hw hw' : Hardware} (h : Starts given hw hw') (hp : P hw) : P hw' := by
  induction h with
  | refl => exact hp
  | tail _ hlast ih => exact hstep _ _ hlast ih

/-- A write at a given time is a step of the start, whether it is taken or not. -/
theorem starts_of_writeAt {hw hw' : Hardware} {v : PropertyValue} {time : Int64} {taken : Bool}
    (hstatus : v.status = .available ∨ ∃ w ∈ given, v.status = w.status)
    (h : hw.writeAt v time = (taken, hw')) : Starts given hw hw' := by
  unfold writeAt at h
  split at h
  · next hwrite =>
    cases h
    exact .single (.written hwrite hstatus)
  · cases h
    exact .refl

/-- A reading of the clock is a step of the start. -/
theorem starts_clock (hw : Hardware) (clock : Clock) : Starts given hw { hw with clock } :=
  .single (.used (.refl hw.store.pool) clock)

/-- A blank value out of the pool is a step of the start. -/
theorem starts_takeBlank (hw : Hardware) (prop area : Int32) (clock : Clock) :
    Starts given hw { (hw.takeBlank prop area).2 with clock } :=
  .single (.used (ValuePool.lent_obtain hw.store.pool prop area) clock)

/-- A stamped write is a step of the start. -/
theorem starts_writeNow (hw : Hardware) {v : PropertyValue}
    (hstatus : v.status = .available ∨ ∃ w ∈ given, v.status = w.status) :
    Starts given hw (hw.writeNow v) :=
  (starts_clock hw hw.clock.read.2).trans (starts_of_writeAt hstatus rfl)

/-- An empty value is taken from the pool, filled and written. -/
theorem starts_filled (hw : Hardware) (prop area : Int32) (payload : Payload) :
    Starts given hw
      ((hw.takeBlank prop area).2.writeNow { (hw.takeBlank prop area).1 with payload }) := by
  have hblank : (hw.takeBlank prop area).1 = .ofKey prop area := ValuePool.fst_obtain _ prop area
  rw [hblank]
  exact (starts_takeBlank hw prop area hw.clock).trans (starts_writeNow _ (.inl rfl))

/-- Steps of the start for each of a list are steps of the start. -/
theorem starts_foldl {α : Type} {f : Hardware → α → Hardware} (hw : Hardware) {as : List α}
    (hf : ∀ hw, ∀ a ∈ as, Starts given hw (f hw a)) : Starts given hw (as.foldl f hw) := by
  induction as generalizing hw with
  | nil => exact .refl
  | cons a rest ih =>
    exact (hf hw a List.mem_cons_self).trans
      (ih (f hw a) fun hw b hb => hf hw b (List.mem_cons_of_mem a hb))

/-- What a declaration gives for an area is written in steps of the start. -/
theorem starts_writeInitial (d : Declaration) (hw : Hardware) (area : Int32) :
    Starts given hw (writeInitial d hw area) := by
  unfold writeInitial
  dsimp only
  split
  · exact .refl
  · exact starts_filled hw _ _ _

/-- A declaration is made in steps of the start. -/
theorem starts_declare (hw : Hardware) (d : Declaration) : Starts given hw (declare hw d) := by
  have hdeclared : Starts given hw
      { hw with store := hw.store.register d.config (tokenRule d.config.prop) } :=
    .single (.declared d.config)
  unfold declare
  dsimp only
  split
  · exact hdeclared
  · exact hdeclared.trans (starts_foldl _ fun hw area _ => starts_writeInitial d hw area)

/-- The live frame is written in steps of the start. -/
theorem starts_writeLiveFrame (hw : Hardware) : Starts given hw hw.writeLiveFrame := by
  unfold writeLiveFrame
  split
  · exact .refl
  · exact starts_filled hw _ _ _

/-- Frames are kept in steps of the start. -/
theorem starts_keepFrames (config : PropertyConfig) (last : Option Int64) (hw : Hardware)
    (faults : List String) : Starts given hw (hw.keepFrames config last faults) := by
  induction faults generalizing hw last with
  | nil => exact .refl
  | cons fault rest ih =>
    have htaken : Starts given hw
        { (hw.takeBlank PropertyId.obd2FreezeFrame 0).2 with clock := hw.clock.read.2 } :=
      starts_takeBlank hw _ _ _
    have hblank : (hw.takeBlank PropertyId.obd2FreezeFrame 0).1 =
        .ofKey PropertyId.obd2FreezeFrame 0 := ValuePool.fst_obtain _ _ 0
    unfold keepFrames
    dsimp only
    rw [hblank]
    split
    · next mid h => exact (htaken.trans (starts_of_writeAt (.inl rfl) h)).trans (ih _ mid)
    · next mid h => exact htaken.trans (starts_of_writeAt (.inl rfl) h)

/-- The frames of the start are kept in steps of the start. -/
theorem starts_writeFreezeFrames (hw : Hardware) : Starts given hw hw.writeFreezeFrames := by
  unfold writeFreezeFrames
  split
  · exact .refl
  · exact starts_keepFrames _ _ _ _

/-- A bench comes about in steps of the start. -/
theorem starts_ofDeclarations (declarations : List Declaration) (overrides : List PropertyValue)
    (clock : Clock) (pool : ValuePool) :
    Starts overrides { store := { pool }, clock }
      (ofDeclarations declarations overrides clock pool) := by
  have hdeclared : Starts overrides { store := { pool }, clock }
      (declarations.foldl declare { store := { pool }, clock }) :=
    starts_foldl _ fun hw d _ => starts_declare hw d
  have hoverridden := hdeclared.trans
    (starts_foldl _ fun hw v hv => starts_writeNow hw (.inr ⟨v, hv, rfl⟩))
  exact (hoverridden.trans (starts_writeLiveFrame _)).trans (starts_writeFreezeFrames _)

end Hardware

end BenchVehicle
