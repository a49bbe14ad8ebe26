import BenchVehicle.Hardware.Operation
import BenchVehicle.Proofs.Store.Slots
import Mathlib.Logic.Relation

/-!
# Effects on the bench

What shows of an operation: changes of the store, of the values put by, and of what listeners were
told. There are few kinds of such effects, and everything that happens to a bench is a sequence of
them. A property that every effect keeps is therefore kept by every operation, however that ends.
-/

namespace BenchVehicle

variable {α β : Type}

namespace Op

/-- The bench after an operation, however that ended. -/
def final (op : Op α) (hw : Hardware) : Hardware :=
  match op hw with
  | .ok _ hw | .error _ hw => hw

/-- A result alone leaves the bench as it is. -/
theorem final_pure (a : α) (hw : Hardware) : (pure a : Op α).final hw = hw := rfl

/-- What was already found, or already failed, leaves the bench as it is. -/
theorem final_ofExcept (found : Except Failure α) (hw : Hardware) :
    (ofExcept found).final hw = hw := by cases found <;> rfl

/-- After an operation that is done the next one goes on from where it left the bench. -/
theorem bind_of_ok {op : Op α} {hw mid : Hardware} {a : α} (h : op hw = .ok a mid)
    (next : α → Op β) : (op >>= next) hw = next a mid := by simp only [bind, EStateM.bind, h]

/-- After an operation that is interrupted there is no next one. -/
theorem bind_of_error {op : Op α} {hw mid : Hardware} {e : Interruption}
    (h : op hw = .error e mid) (next : α → Op β) : (op >>= next) hw = .error e mid := by
  simp only [bind, EStateM.bind, h]

/-- The bench after two operations, if the first is done. -/
theorem final_bind_ok {op : Op α} {hw mid : Hardware} {a : α} (h : op hw = .ok a mid)
    (next : α → Op β) : (op >>= next).final hw = (next a).final mid := by
  unfold final
  rw [bind_of_ok h]

/-- The bench after two operations, if the first is interrupted. -/
theorem final_bind_error {op : Op α} {hw mid : Hardware} {e : Interruption}
    (h : op hw = .error e mid) (next : α → Op β) : (op >>= next).final hw = mid := by
  unfold final
  rw [bind_of_error h]

/-- An operation after which nothing more happens to the bench. -/
theorem final_bind_of_still {op : Op α} {next : α → Op β} (h : ∀ a hw, (next a).final hw = hw)
    (hw : Hardware) : (op >>= next).final hw = op.final hw := by
  cases hop : op hw with
  | ok a mid =>
    rw [final_bind_ok hop, h]
    simp only [final, hop]
  | error e mid =>
    rw [final_bind_error hop]
    simp only [final, hop]

/-- An operation whose result is dropped. -/
theorem final_bind_pure (op : Op α) (b : β) (hw : Hardware) :
    (do let _ ← op; pure b : Op β).final hw = op.final hw := final_bind_of_still (fun _ _ => rfl) hw

/-- How a failure is worded does not matter for the bench. -/
theorem final_mapFailure (f : Failure → Failure) (op : Op α) (hw : Hardware) :
    (op.mapFailure f).final hw = op.final hw := by
  unfold final mapFailure
  cases op hw with
  | ok a mid => rfl
  | error e mid => cases e <;> rfl

/-- Nor does the activity that a failure is reported under. -/
theorem final_during (activity : String) (op : Op α) (hw : Hardware) :
    (op.during activity).final hw = op.final hw := final_mapFailure _ op hw

/-- Looking at the outcome of an operation leaves the bench where the operation does. -/
theorem final_result (op : Op α) (hw : Hardware) : op.result.final hw = op.final hw := by
  unfold final result
  cases op hw with
  | ok a mid => rfl
  | error e mid => cases e <;> rfl

/-- An attempt leaves the bench where the operation does. -/
theorem snd_attempt (op : Op α) (hw : Hardware) : (op.attempt hw).2 = op.final hw := by
  unfold final attempt
  cases op hw with
  | ok a mid => rfl
  | error e mid => cases e <;> rfl

/-- The bench after an operation that is done. -/
theorem final_of_ok {op : Op α} {hw mid : Hardware} {a : α} (h : op hw = .ok a mid) :
    op.final hw = mid := by
  unfold final
  rw [h]

/-- The bench after an operation that is interrupted. -/
theorem final_of_error {op : Op α} {hw mid : Hardware} {e : Interruption}
    (h : op hw = .error e mid) : op.final hw = mid := by
  unfold final
  rw [h]

/-- Where nothing fails there is nothing to word. -/
theorem mapFailure_of_ok {op : Op α} {hw mid : Hardware} {a : α} (h : op hw = .ok a mid)
    (f : Failure → Failure) : op.mapFailure f hw = .ok a mid := by
  unfold mapFailure
  rw [h]

/-- A failure is worded as asked. -/
theorem mapFailure_of_failed {op : Op α} {hw mid : Hardware} {e : Failure}
    (h : op hw = .error (.failed e) mid) (f : Failure → Failure) :
    op.mapFailure f hw = .error (.failed (f e)) mid := by
  unfold mapFailure
  rw [h]

/-- Where nothing fails no activity is named. -/
theorem during_of_ok {op : Op α} {hw mid : Hardware} {a : α} (h : op hw = .ok a mid)
    (activity : String) : op.during activity hw = .ok a mid := mapFailure_of_ok h _

/-- A failure is reported under its activity. -/
theorem during_of_failed {op : Op α} {hw mid : Hardware} {e : Failure}
    (h : op hw = .error (.failed e) mid) (activity : String) :
    op.during activity hw = .error (.failed (e.during activity)) mid := mapFailure_of_failed h _

/-- The outcome of an operation that is done is its result. -/
theorem result_of_ok {op : Op α} {hw mid : Hardware} {a : α} (h : op hw = .ok a mid) :
    op.result hw = .ok (.ok a) mid := by
  unfold result
  rw [h]

/-- The outcome of an operation that fails is the failure, and things go on. -/
theorem result_of_failed {op : Op α} {hw mid : Hardware} {e : Failure}
    (h : op hw = .error (.failed e) mid) : op.result hw = .ok (.error e) mid := by
  unfold result
  rw [h]

/-- Going down is not an outcome that can be looked at. -/
theorem result_of_crashed {op : Op α} {hw mid : Hardware} (h : op hw = .error .crashed mid) :
    op.result hw = .error .crashed mid := by
  unfold result
  rw [h]

end Op

/-- That an event shows no status but that a value is available. -/
def Event.Available : Event → Prop
  | .change _ v => v.status = .available
  | .setError .. => True

namespace Hardware

/-- The events of a change: one, if somebody listens. -/
def changeEvents (hw : Hardware) (change : Option PropertyValue) : List Event :=
  match hw.changeListener, change with
  | some listener, some v => [.change listener.name v]
  | _, _ => []

/-- That nothing shows of what happened. -/
structure Quiet (hw hw' : Hardware) : Prop where
  /-- The store looks the same. -/
  store : Store.Same hw.store hw'.store
  /-- The values put by are the same. -/
  saved : hw'.saved = hw.saved
  /-- Nobody was told anything. -/
  events : hw'.events = hw.events

/-- Nothing shows where the store, the values put by and the events are the same. -/
theorem Quiet.of_store {hw hw' : Hardware} (store : hw'.store = hw.store)
    (saved : hw'.saved = hw.saved) (events : hw'.events = hw.events) : Quiet hw hw' where
  store := .of_records (by rw [store])
  saved
  events

/-- The kinds of effects. -/
inductive Effect (hw hw' : Hardware) : Prop where
  /-- Nothing shows. -/
  | quiet (h : Quiet hw hw')
  /-- A value is written, and the change announced. A status that is written too says that the value
  is available. -/
  | wrote (v : PropertyValue) (updateStatus : Bool) (change : Option PropertyValue)
      (store : hw.store.write v updateStatus = .ok (hw'.store, change))
      (saved : hw'.saved = hw.saved) (events : hw'.events = hw.events ++ hw.changeEvents change)
      (status : updateStatus = true → v.status = .available)
  /-- The slot of a value is emptied. -/
  | removed (v : PropertyValue) (store : hw'.store = hw.store.remove v)
      (saved : hw'.saved = hw.saved) (events : hw'.events = hw.events)
  /-- The slots of a property are emptied. -/
  | removedAll (prop : Int32) (store : hw'.store = hw.store.removeAll prop)
      (saved : hw'.saved = hw.saved) (events : hw'.events = hw.events)
  /-- A stored value is put by. -/
  | saved (key : PropertyKey) (v : PropertyValue)
      (found : hw.store.find (.ofKey key.prop key.area) = .ok v)
      (store : Store.Same hw.store hw'.store) (saved : hw'.saved = hw.saved.insert key v)
      (events : hw'.events = hw.events)
  /-- A value that was put by is taken. -/
  | took (key : PropertyKey) (v : PropertyValue) (found : hw.saved.get? key = some v)
      (store : Store.Same hw.store hw'.store) (saved : hw'.saved = hw.saved.erase key)
      (events : hw'.events = hw.events)
  /-- A listener is told of something that did not change the store. -/
  | told (event : Event) (store : Store.Same hw.store hw'.store) (saved : hw'.saved = hw.saved)
      (events : hw'.events = hw.events ++ [event]) (available : event.Available)

/-- That a sequence of effects leads from one bench to another. -/
abbrev Reaches : Hardware → Hardware → Prop := Relation.ReflTransGen Effect

/-- Nothing to be seen is an effect too. -/
theorem Quiet.reaches {hw hw' : Hardware} (h : Quiet hw hw') : Reaches hw hw' := .single (.quiet h)

/-- Nothing shows of a change of anything but the store, the values put by and the events. -/
theorem reaches_of_unseen {hw hw' : Hardware} (store : hw'.store = hw.store)
    (saved : hw'.saved = hw.saved) (events : hw'.events = hw.events) : Reaches hw hw' :=
  (Quiet.of_store store saved events).reaches

/-- What every effect keeps is kept by every sequence of them. -/
theorem Reaches.keeps {P : Hardware → Prop}
    (heffect : ∀ hw hw', Effect hw hw' → P hw → P hw') {hw hw' : Hardware} (h : Reaches hw hw')
    (hp : P hw) : P hw' := by
  induction h with
  | refl => exact hp
  | tail _ hlast ih => exact heffect _ _ hlast ih

end Hardware

open Hardware

/-- That a listener does not go down on any change of a property. -/
def Listener.Stands (listener : Listener) (prop : Int32) : Prop :=
  ∀ v : PropertyValue, v.prop = prop → listener.fallsOver (.change listener.name v) = false

/-- A listener that goes down on the events about one property stands all changes of the others. -/
theorem Listener.stands_iff {name : String} {weakness : Option Int32} {prop : Int32} :
    Listener.Stands { name, fallsOver := .ofProperty? weakness } prop ↔ weakness ≠ some prop := by
  constructor
  · rintro h rfl
    have hfalls := h (.ofKey prop 0) rfl
    exact absurd (of_decide_eq_false hfalls) (not_not_intro rfl)
  · rintro h v rfl
    exact decide_eq_false h

namespace Op

/-- That all an operation does are effects. -/
def Traced (op : Op α) : Prop := ∀ hw, Reaches hw (op.final hw)

/-- A result alone has no effects. -/
theorem traced_pure (a : α) : (pure a : Op α).Traced := fun _ => .refl

/-- Failing has no effects. -/
theorem traced_fail (c : Cause) : (fail c : Op α).Traced := fun _ => .refl

/-- Looking at the bench has no effects. -/
theorem traced_get : (get : Op Hardware).Traced := fun _ => .refl

/-- What was already found has no effects. -/
theorem traced_ofExcept (found : Except Failure α) : (ofExcept found).Traced := fun hw => by
  rw [final_ofExcept]

/-- An operation of which nothing shows does nothing but effects. -/
theorem traced_of_quiet {op : Op α} (h : ∀ hw, Quiet hw (op.final hw)) : op.Traced :=
  fun hw => (h hw).reaches

/-- Operations one after the other. -/
theorem Traced.bind {op : Op α} {next : α → Op β} (hop : op.Traced) (hnext : ∀ a, (next a).Traced) :
    (op >>= next).Traced := by
  intro hw
  have hfirst : Reaches hw (op.final hw) := hop hw
  cases h : op hw with
  | error e mid =>
    rw [final_bind_error h]
    exact final_of_error h ▸ hfirst
  | ok a mid =>
    rw [final_bind_ok h]
    have hmid : Reaches hw mid := final_of_ok h ▸ hfirst
    exact hmid.trans (hnext a mid)

end Op

namespace Hardware

open Op

/-! ## Single steps -/

/-- What the store does shows in the store only. -/
theorem final_fromStore (f : Store → Except Failure α × Store) (hw : Hardware) :
    (fromStore f).final hw = { hw with store := (f hw.store).2 } := by
  unfold final fromStore
  cases h : f hw.store with
  | mk found s => cases found <;> rfl

/-- Nothing shows of reading the clock. -/
theorem traced_now : now.Traced := traced_of_quiet fun _ => .of_store rfl rfl rfl

/-- Nothing shows of a look at the store that leaves its records alone. -/
theorem traced_fromStore {f : Store → Except Failure α × Store}
    (h : ∀ s, Store.Same s (f s).2) : (fromStore f).Traced := traced_of_quiet fun hw => by
  rw [final_fromStore]
  exact ⟨h hw.store, rfl, rfl⟩

/-- Nothing shows of a copy. -/
theorem traced_copied (v : PropertyValue) : (copied v).Traced :=
  traced_fromStore fun _ => .of_records rfl

/-- Emptying the slot of a value is an effect. -/
theorem traced_removeStored (v : PropertyValue) : (removeStored v).Traced := fun hw => by
  rw [removeStored, final_fromStore]
  exact .single (.removed v rfl rfl rfl)

/-- Emptying the slots of a property is an effect. -/
theorem traced_removeAllStored (prop : Int32) : (removeAllStored prop).Traced := fun hw => by
  rw [removeAllStored, final_fromStore]
  exact .single (.removedAll prop rfl rfl rfl)

/-- The event is recorded, also if the listener goes down on it. -/
theorem final_tell (listener : Listener) (event : Event) (hw : Hardware) :
    (tell listener event).final hw = { hw with events := hw.events ++ [event] } := by
  unfold final tell
  cases listener.fallsOver event <;> rfl

/-- Telling a listener something is an effect. -/
theorem traced_tell (listener : Listener) {event : Event} (h : event.Available) :
    (tell listener event).Traced := fun hw => by
  rw [final_tell]
  exact .single (.told event (.of_records rfl) rfl rfl h)

/-- Without a change there is nothing to tell. -/
theorem changeEvents_none (hw : Hardware) : hw.changeEvents none = [] := by
  unfold changeEvents
  split <;> trivial

/-- Of no change nobody is told. -/
theorem final_silence (hw : Hardware) :
    (pure () : Op Unit).final hw = { hw with events := hw.events ++ hw.changeEvents none } := by
  simp [final_pure, changeEvents_none]

/-- An announcement leaves the events of the change, whoever listens. -/
theorem final_announce (v : PropertyValue) (hw : Hardware) :
    (announce v).final hw = { hw with events := hw.events ++ hw.changeEvents (some v) } := by
  have hget : (get : Op Hardware) hw = .ok hw hw := rfl
  rw [announce, final_bind_ok hget]
  obtain ⟨_, _, _, _, _, _, _, listener, _, _, _⟩ := hw
  cases listener with
  | none => simp [changeEvents, final_pure]
  | some listener => exact final_tell listener _ _

/-- Announcing an available value is an effect. -/
theorem traced_announce {v : PropertyValue} (h : v.status = .available) : (announce v).Traced := by
  refine traced_get.bind fun hw => ?_
  cases hw.changeListener with
  | none => exact traced_pure ()
  | some listener => exact traced_tell listener h

/-- What the store finds is found, and the store is kept. -/
theorem fromStore_of_ok {f : Store → Except Failure α × Store} {hw : Hardware} {a : α} {s : Store}
    (h : f hw.store = (.ok a, s)) : fromStore f hw = .ok a { hw with store := s } := by
  unfold fromStore
  rw [h]

/-- What the store refuses fails, and the store is kept. -/
theorem fromStore_of_error {f : Store → Except Failure α × Store} {hw : Hardware} {e : Failure}
    {s : Store} (h : f hw.store = (.error e, s)) :
    fromStore f hw = .error (.failed e) { hw with store := s } := by
  unfold fromStore
  rw [h]

/-- A copy is a copy. -/
theorem copied_ok (v : PropertyValue) (hw : Hardware) :
    copied v hw = .ok v { hw with store := { hw.store with pool := (hw.store.pool.copy v).2 } } :=
  fromStore_of_ok (Prod.ext (congrArg Except.ok (ValuePool.fst_copy _ v)) rfl)

/-- A blank value can always be had, and only the pool changes. -/
theorem blank_ok (prop area : Int32) (hw : Hardware) :
    blank prop area hw = .ok (.ofKey prop area)
      { hw with store := { hw.store with pool := (hw.store.pool.obtain prop area).2 } } :=
  fromStore_of_ok (by rw [← ValuePool.fst_obtain hw.store.pool])

/-- The clock can always be read, and moves on. -/
theorem now_ok (hw : Hardware) :
    now hw = .ok hw.clock.now { hw with clock := hw.clock.read.2 } := rfl

/-- What user management answers is answered, and its state is kept. -/
theorem fromUserHal_of_ok {f : UserHal → Except Failure (α × UserHal)} {hw : Hardware} {a : α}
    {u : UserHal} (h : f hw.userHal = .ok (a, u)) : fromUserHal f hw = .ok a (hw.withUserHal u) := by
  unfold fromUserHal
  rw [h]

/-- What user management refuses fails, and leaves everything as it is. -/
theorem fromUserHal_of_error {f : UserHal → Except Failure (α × UserHal)} {hw : Hardware}
    {e : Failure} (h : f hw.userHal = .error e) : fromUserHal f hw = .error (.failed e) hw := by
  unfold fromUserHal
  rw [h]

/-- User management leaves the records of the store as they are. -/
theorem records_fromUserHal (f : UserHal → Except Failure (α × UserHal)) (hw : Hardware) :
    ((fromUserHal f).final hw).store.records = hw.store.records := by
  unfold final fromUserHal
  cases f hw.userHal <;> rfl

/-! ## Writing -/

/-- A commit of a value that the store takes. -/
theorem commit_of_ok {hw : Hardware} {v : PropertyValue} {updateStatus : Bool} {s : Store}
    {change : Option PropertyValue} (h : hw.store.write v updateStatus = .ok (s, change)) :
    commit v updateStatus hw = .ok change { hw with store := s } :=
  fromStore_of_ok (by rw [h])

/-- A commit of a value that the store does not take leaves everything as it is. -/
theorem commit_of_error {hw : Hardware} {v : PropertyValue} {updateStatus : Bool} {e : Failure}
    (h : hw.store.write v updateStatus = .error e) :
    commit v updateStatus hw = .error (.failed e) hw :=
  fromStore_of_error (by rw [h])

/-- A value that the store takes is written and the change announced, also if that goes wrong. -/
theorem final_write_of_ok {hw : Hardware} {v : PropertyValue} {updateStatus : Bool} {s : Store}
    {change : Option PropertyValue} (h : hw.store.write v updateStatus = .ok (s, change)) :
    (write v updateStatus).final hw =
      { hw with store := s, events := hw.events ++ hw.changeEvents change } := by
  rw [write, final_bind_ok (commit_of_ok h)]
  cases change with
  | none => exact final_silence _
  | some c => exact final_announce c _

/-- A value that the store does not take leaves everything as it is. -/
theorem final_write_of_error {hw : Hardware} {v : PropertyValue} {updateStatus : Bool} {e : Failure}
    (h : hw.store.write v updateStatus = .error e) : (write v updateStatus).final hw = hw := by
  rw [write, final_bind_error (commit_of_error h)]

/-- A write that succeeds, with its announcement. -/
theorem write_done {hw hw' : Hardware} {v : PropertyValue} {updateStatus : Bool}
    (h : write v updateStatus hw = .ok () hw') :
    ∃ t change, hw.store.write v updateStatus = .ok (t, change) ∧
      hw' = { hw with store := t, events := hw.events ++ hw.changeEvents change } := by
  cases hwrite : hw.store.write v updateStatus with
  | error e =>
    have hfailed : write v updateStatus hw = .error (.failed e) hw :=
      bind_of_error (commit_of_error hwrite) _
    rw [hfailed] at h
    cases h
  | ok r => exact ⟨r.1, r.2, rfl, (final_of_ok h).symm.trans (final_write_of_ok hwrite)⟩

/-- An announcement takes an operation down only with a listener that goes down on the property. -/
theorem announce_ok {hw : Hardware} {v : PropertyValue}
    (hlistener : ∀ listener, hw.changeListener = some listener → listener.Stands v.prop) :
    ∃ hw', announce v hw = .ok () hw' := by
  have hget : (get : Op Hardware) hw = .ok hw hw := rfl
  rw [announce, bind_of_ok hget]
  cases h : hw.changeListener with
  | none => exact ⟨hw, rfl⟩
  | some listener =>
    refine ⟨{ hw with events := hw.events ++ [.change listener.name v] }, ?_⟩
    exact if_neg (Bool.eq_false_iff.mp (hlistener listener h v rfl))

/-- A write that the store takes goes through if every listener stands the changes of the property.
-/
theorem write_ok {hw : Hardware} {v : PropertyValue} {updateStatus : Bool} {s : Store}
    {change : Option PropertyValue} (h : hw.store.write v updateStatus = .ok (s, change))
    (hk : hw.store.Keyed)
    (hlistener : ∀ listener, hw.changeListener = some listener → listener.Stands v.prop) :
    ∃ hw', write v updateStatus hw = .ok () hw' := by
  rw [write, bind_of_ok (commit_of_ok h)]
  cases change with
  | none => exact ⟨_, rfl⟩
  | some c =>
    obtain ⟨rules, hwritten⟩ := Store.written_of_write hk h
    have hlistener' (listener : Listener) (hl : hw.changeListener = some listener) :
        listener.Stands c.prop := hwritten.prop_of_change ▸ hlistener listener hl
    exact announce_ok hlistener'

/-- A write does nothing but effects, if a status that it writes says available. -/
theorem traced_write {v : PropertyValue} {updateStatus : Bool}
    (hstatus : updateStatus = true → v.status = .available) : (write v updateStatus).Traced := by
  intro hw
  cases h : hw.store.write v updateStatus with
  | error e => rw [final_write_of_error h]
  | ok r =>
    rw [final_write_of_ok h]
    exact .single (.wrote v updateStatus r.2 h rfl rfl hstatus)

/-- A commit whose outcome is looked at: if the store takes the value, the change is announced. -/
theorem traced_commit_result {v : PropertyValue} {updateStatus : Bool}
    {next : Except Failure (Option PropertyValue) → Op α}
    (hstatus : updateStatus = true → v.status = .available)
    (hok : ∀ change hw, (next (.ok change)).final hw =
      { hw with events := hw.events ++ hw.changeEvents change })
    (herror : ∀ e, (next (.error e)).Traced) :
    ((commit v updateStatus).result >>= next).Traced := by
  intro hw
  cases h : hw.store.write v updateStatus with
  | error e =>
    rw [final_bind_ok (result_of_failed (commit_of_error h))]
    exact herror e hw
  | ok r =>
    rw [final_bind_ok (result_of_ok (commit_of_ok h)), hok]
    exact .single (.wrote v updateStatus r.2 h rfl rfl hstatus)

/-! ## Failing -/

/-- That an operation fails. Going down with a listener is no failure of its own. -/
def Fails (op : Op α) (hw : Hardware) : Prop := ∃ e mid, op hw = .error (.failed e) mid

/-- An operation that ends in a failure fails. -/
theorem fails_of_failed {op : Op α} {hw mid : Hardware} {e : Failure}
    (h : op hw = .error (.failed e) mid) : Fails op hw := ⟨e, mid, h⟩

/-- A failure that was reworded came from a failure. -/
theorem failed_of_mapFailure {op : Op α} {f : Failure → Failure} {hw hw' : Hardware} {e : Failure}
    (h : op.mapFailure f hw = .error (.failed e) hw') :
    ∃ e', f e' = e ∧ op hw = .error (.failed e') hw' := by
  unfold Op.mapFailure at h
  cases hop : op hw with
  | ok a mid =>
    rw [hop] at h
    cases h
  | error e' mid =>
    rw [hop] at h
    cases e' with
    | failed e' =>
      cases h
      exact ⟨e', rfl, rfl⟩
    | crashed => cases h

/-- A success under reworded failures is a success. -/
theorem done_of_mapFailure {op : Op α} {f : Failure → Failure} {hw hw' : Hardware} {a : α}
    (h : op.mapFailure f hw = .ok a hw') : op hw = .ok a hw' := by
  unfold Op.mapFailure at h
  cases hop : op hw with
  | ok a' mid =>
    rw [hop] at h
    exact h
  | error e mid =>
    rw [hop] at h
    cases e <;> cases h

/-- A result that an attempt gives is that of a success. -/
theorem done_of_attempt {op : Op α} {hw : Hardware} {a : α} (h : (op.attempt hw).1 = .ok a) :
    ∃ hw', op hw = .ok a hw' := by
  unfold Op.attempt at h
  cases hop : op hw with
  | ok a' mid =>
    rw [hop] at h
    cases h
    exact ⟨mid, rfl⟩
  | error e mid =>
    rw [hop] at h
    cases e <;> cases h

/-- Two operations that succeed one after the other. -/
theorem done_of_bind {β : Type} {op : Op α} {next : α → Op β} {hw hw' : Hardware} {b : β}
    (h : (op >>= next) hw = .ok b hw') : ∃ a mid, op hw = .ok a mid ∧ next a mid = .ok b hw' := by
  cases hop : op hw with
  | ok a mid =>
    rw [bind_of_ok hop] at h
    exact ⟨a, mid, rfl, h⟩
  | error e mid =>
    rw [bind_of_error hop] at h
    cases h

/-- Where two operations one after the other failed. -/
theorem failed_of_bind {β : Type} {op : Op α} {next : α → Op β} {hw hw' : Hardware} {e : Failure}
    (h : (op >>= next) hw = .error (.failed e) hw') :
    op hw = .error (.failed e) hw' ∨
      ∃ a mid, op hw = .ok a mid ∧ next a mid = .error (.failed e) hw' := by
  cases hop : op hw with
  | ok a mid =>
    rw [bind_of_ok hop] at h
    exact .inr ⟨a, mid, rfl, h⟩
  | error e' mid =>
    rw [bind_of_error hop] at h
    cases h
    exact .inl rfl

/-- The activity that a failure is reported under does not matter for whether there is one. -/
theorem fails_during_iff (activity : String) (op : Op α) (hw : Hardware) :
    Fails (op.during activity) hw ↔ Fails op hw := by
  constructor
  · rintro ⟨e, mid, h⟩
    obtain ⟨e', -, he'⟩ := failed_of_mapFailure h
    exact ⟨e', mid, he'⟩
  · rintro ⟨e, mid, h⟩
    exact ⟨_, _, during_of_failed h activity⟩

/-- Looking at an outcome does not fail. -/
theorem not_fails_result (op : Op α) (hw : Hardware) : ¬ Fails op.result hw := by
  rintro ⟨e, mid, h⟩
  unfold Op.result at h
  split at h <;> cases h

/-- An announcement does not fail, though it may go down. -/
theorem not_fails_announce (v : PropertyValue) (hw : Hardware) : ¬ Fails (announce v) hw := by
  rintro ⟨e, mid, h⟩
  have hget : (get : Op Hardware) hw = .ok hw hw := rfl
  rw [announce, bind_of_ok hget] at h
  cases hl : hw.changeListener with
  | none =>
    rw [hl] at h
    cases h
  | some listener =>
    rw [hl] at h
    simp only [tell] at h
    split at h <;> cases h

/-- A write fails exactly if the store does not take the value. -/
theorem not_fails_write_iff (v : PropertyValue) (updateStatus : Bool) (hw : Hardware) :
    (hw.store.write v updateStatus).isOk = true ↔ ¬ Fails (write v updateStatus) hw := by
  cases h : hw.store.write v updateStatus with
  | error e =>
    have hfails : Fails (write v updateStatus) hw :=
      fails_of_failed (bind_of_error (commit_of_error h) _)
    exact iff_of_false (by simp [Except.isOk, Except.toBool]) (not_not_intro hfails)
  | ok r =>
    refine iff_of_true rfl ?_
    rintro ⟨e, mid, hwrite⟩
    rw [write, bind_of_ok (commit_of_ok h)] at hwrite
    cases hchange : r.2 with
    | none =>
      rw [hchange] at hwrite
      cases hwrite
    | some change =>
      rw [hchange] at hwrite
      exact not_fails_announce change _ ⟨e, mid, hwrite⟩

/-- A write that fails changes nothing. -/
theorem failed_write {v : PropertyValue} {updateStatus : Bool} {hw hw' : Hardware} {e : Failure}
    (h : write v updateStatus hw = .error (.failed e) hw') :
    hw' = hw ∧ hw.store.write v updateStatus = .error e := by
  cases hwrite : hw.store.write v updateStatus with
  | error e' =>
    have hfailed : write v updateStatus hw = .error (.failed e') hw :=
      bind_of_error (commit_of_error hwrite) _
    rw [hfailed] at h
    cases h
    exact ⟨rfl, rfl⟩
  | ok r =>
    have htaken : (hw.store.write v updateStatus).isOk = true := by
      rw [hwrite]
      rfl
    exact absurd (fails_of_failed h) ((not_fails_write_iff v updateStatus hw).mp htaken)

/-- Operations that end alike fail alike. -/
theorem fails_congr {op op' : Op α} {hw hw' : Hardware} (h : op hw = op' hw') :
    Fails op hw ↔ Fails op' hw' := by
  unfold Fails
  rw [h]

/-- Operations that end alike leave the same bench. -/
theorem final_congr {op op' : Op α} {hw hw' : Hardware} (h : op hw = op' hw') :
    op.final hw = op'.final hw' := by
  unfold final
  rw [h]

end Hardware

end BenchVehicle
