import BenchVehicle.Proofs.Hardware.Accesses
import BenchVehicle.Proofs.Hardware.Commands

/-!
# Across everything that happens

Clients, the vehicle, the workers, the timers and commands do things to a bench that are made of few
steps. A relation between the bench before and after that holds across each step and carries over
from one to the next therefore holds across every operation, however it ends, and every history.
-/

namespace BenchVehicle.Hardware

open Op

variable {α : Type} {R : Hardware → Hardware → Prop}

/-- The bench after an operation is the one that performing it leaves. -/
theorem after_eq (hw : Hardware) (o : Operation) : hw.after o = (perform o).final hw := by
  unfold after final
  cases perform o hw <;> rfl

/-- The bench after a set that succeeds. -/
theorem after_set_of_ok {hw hw' : Hardware} {v : PropertyValue} (h : setValue v hw = .ok () hw') :
    hw.after (.set v) = hw' := by
  rw [after_eq, ← final_of_ok h]
  exact final_bind_pure (setValue v) Answer.done hw

/-! ## Workers and sampling -/

section Carried

variable (hrefl : ∀ hw, R hw hw) (htrans : ∀ {hw mid hw'}, R hw mid → R mid hw' → R hw hw')

include hrefl htrans

/-- A batch of gets follows what taking requests and each get follow. -/
theorem followsState_workGets_of (htaken : ∀ hw gets, R hw { hw with gets })
    (hget : ∀ request, (getForClient request).Follows R) : FollowsState R workGets := by
  have hserve (request : GetRequest) : FollowsState R (serveGet request) := by
    refine (hget request.value).attempt.bind htrans fun found => ?_
    cases found <;> exact hrefl
  have hanswer (request : GetRequest) :
      FollowsState R (do return some (← serveGet request) : StateM Hardware (Option GetResult)) :=
    (hserve request).bind htrans fun _ => hrefl
  refine FollowsState.bind htrans hrefl fun hw => ?_
  cases hw.gets.advance.finish? with
  | none => exact hrefl
  | some r =>
    refine FollowsState.bind htrans (fun hw => htaken hw r.2) fun _ => ?_
    exact followsState_resolve hrefl htrans hanswer r.1

/-- A batch of sets follows what taking requests and each set follow. -/
theorem followsState_workSets_of (htaken : ∀ hw sets, R hw { hw with sets })
    (hset : ∀ v, (setForClient v).Follows R) : FollowsState R workSets := by
  have hserve (request : SetRequest) : FollowsState R (serveSet request) := by
    refine (hset request.value).attempt.bind htrans fun found => ?_
    cases found <;> exact hrefl
  have hanswer (request : SetRequest) :
      FollowsState R (do return some (← serveSet request) : StateM Hardware (Option SetResult)) :=
    (hserve request).bind htrans fun _ => hrefl
  refine FollowsState.bind htrans hrefl fun hw => ?_
  cases hw.sets.advance.finish? with
  | none => exact hrefl
  | some r =>
    refine FollowsState.bind htrans (fun hw => htaken hw r.2) fun _ => ?_
    exact followsState_resolve hrefl htrans hanswer r.1

omit hrefl in
/-- A round of samples follows what its refreshes follow. -/
theorem across_fireSampler_of (hsampler : ∀ hw sampler, R hw { hw with sampler })
    (hrefresh : ∀ key, (refresh key).Follows R) (hw : Hardware) : R hw hw.fireSampler := by
  unfold fireSampler
  dsimp only
  split
  · exact hsampler hw _
  · next registration _ =>
    have hfired := htrans (hsampler hw { hw.sampler with timer := hw.sampler.timer.fire.2 })
      (hrefresh registration.action _)
    split
    · next mid hmid =>
      have hmid' : R hw mid := final_of_error hmid ▸ hfired
      exact htrans hmid' (hsampler mid _)
    · next mid hmid => exact final_of_ok hmid ▸ hfired
    · next mid _ hmid => exact final_of_error hmid ▸ hfired

end Carried

/-! ## Everything -/

/-- Relations between benches that hold across the steps that operations are made of and carry over
from one to the next. -/
structure Closed (R : Hardware → Hardware → Prop) : Prop where
  /-- They carry over. -/
  trans : ∀ {hw mid hw'}, R hw mid → R mid hw' → R hw hw'
  /-- They hold across what shows neither in the values nor in the events. -/
  unseen : ∀ {hw hw' : Hardware}, hw'.store = hw.store → hw'.canned = hw.canned →
    hw'.saved = hw.saved → hw'.events = hw.events → R hw hw'
  /-- They hold across the steps of gets, sets and refreshes. -/
  access : Covers fun _ op => op.Follows R
  /-- They hold when a value comes from the vehicle. -/
  arrival : ∀ v, (takeFromBus v).Follows R
  /-- They hold when an event is made up, which shows a value as available. -/
  announcement : ∀ v : PropertyValue, v.status = .available → (announce v).Follows R
  /-- They hold when a value is put by. -/
  saving : ∀ key, (save key).Follows R
  /-- They hold when a value that was put by is taken. -/
  takingSaved : ∀ key, (takeSaved key).Follows R

namespace Closed

variable (h : Closed R)

include h

/-- A closed relation holds where nothing happens. -/
theorem refl (hw : Hardware) : R hw hw := h.unseen rfl rfl rfl rfl

/-- What is made of steps across which the relation holds is one of them. -/
theorem follows_of_made {op : Op α} (hop : Made (fun _ op => op.Follows R) op) : op.Follows R :=
  hop.follows h.refl h.trans fun _ _ hgiven => hgiven

/-- The relation holds across a refresh. -/
theorem follows_refresh (key : PropertyKey) : (refresh key).Follows R :=
  h.follows_of_made (h.access.made_refresh key)

/-- The relation holds when a value that was put by is written back. -/
theorem follows_restore (key : PropertyKey) : (restore key).Follows R :=
  (h.takingSaved key).bind h.trans fun _ => h.access.now.bind h.trans fun _ =>
    h.follows_of_made ((Made.given (h.access.write _ false nofun)).during _)

/-- An operation whose result is reported. -/
theorem follows_reported {β : Type} {op : Op α} (hop : op.Follows R) (f : α → β) :
    (do return f (← op) : Op β).Follows R := hop.bind h.trans fun _ => h.refl

/-! ### Workers -/

/-- The relation holds across a batch of gets. -/
theorem followsState_workGets : FollowsState R workGets :=
  followsState_workGets_of h.refl h.trans (fun _ _ => h.unseen rfl rfl rfl rfl) fun request =>
    h.follows_of_made (h.access.made_getForClient request)

/-- The relation holds across a batch of sets. -/
theorem followsState_workSets : FollowsState R workSets :=
  followsState_workSets_of h.refl h.trans (fun _ _ => h.unseen rfl rfl rfl rfl) fun v =>
    h.follows_of_made (h.access.made_setForClient v)

/-! ### Sampling and generators -/

/-- The relation holds across a change of a sample rate. -/
theorem followsState_setRate (key : PropertyKey) (rate : Single) :
    FollowsState R (setRate key rate) := by
  intro hw
  simp only [setRate, modifyGet, MonadStateOf.modifyGet, StateT.modifyGet]
  split <;> exact h.unseen rfl rfl rfl rfl

/-- The relation holds across a round of samples. -/
theorem across_fireSampler (hw : Hardware) : R hw hw.fireSampler :=
  across_fireSampler_of (R := R) h.trans (fun _ _ => h.unseen rfl rfl rfl rfl) h.follows_refresh hw

/-- The relation holds across a round of generators. -/
theorem across_fireGenerator (hw : Hardware) : R hw hw.fireGenerator := by
  unfold fireGenerator
  dsimp only
  split
  · exact h.unseen rfl rfl rfl rfl
  · next v _ =>
    have hstart : R hw
        { hw with hub := (hw.hub.fire hw.clock.read.1).2, clock := hw.clock.read.2 } :=
      h.unseen rfl rfl rfl rfl
    have harrive := h.trans hstart (h.arrival v _)
    split
    · next mid hmid =>
      have hmid' : R hw mid := final_of_error hmid ▸ harrive
      exact h.trans hmid' (h.unseen rfl rfl rfl rfl)
    · next mid hmid => exact final_of_ok hmid ▸ harrive
    · next mid _ hmid => exact final_of_error hmid ▸ harrive

/-- The relation holds while the next sample is waited for. -/
theorem across_awaitSampler (hw : Hardware) : R hw hw.awaitSampler := by
  unfold awaitSampler
  split <;> exact h.unseen rfl rfl rfl rfl

/-- The relation holds while generators are waited for. -/
theorem across_awaitGenerators (hw : Hardware) : R hw hw.awaitGenerators := by
  unfold awaitGenerators
  split <;> exact h.unseen rfl rfl rfl rfl

/-- The relation holds across what comes due. -/
theorem across_wake (hw : Hardware) : R hw hw.wake := by
  unfold wake
  split
  · exact h.across_fireSampler hw
  split
  · exact h.across_fireGenerator hw
  split
  · split
    · exact h.across_awaitGenerators hw
    · exact h.across_awaitSampler hw
  · exact h.across_awaitSampler hw
  · exact h.across_awaitGenerators hw

/-! ### Commands -/

/-- The relation holds across what a command performs. -/
theorem follows_performed {named : PropertyKey → Prop} {op : Op α}
    (hop : Command.Performed named op) : op.Follows R := by
  cases hop with
  | look => exact h.refl
  | getValue request => exact h.follows_of_made (h.access.made_getValue request)
  | setValue v => exact h.follows_of_made (h.access.made_setValue v)
  | takeFromBus v => exact h.arrival v
  | save => exact h.saving _
  | restore => exact h.follows_restore _
  | startGenerator id generator => exact fun _ => h.unseen rfl rfl rfl rfl
  | stopGenerator id => exact fun _ => h.unseen rfl rfl rfl rfl
  | now => exact h.access.now
  | announce v hstatus => exact h.announcement v hstatus

/-- The relation holds across commands. -/
theorem follows_command (tokens : List String) : (Command.run tokens).Follows R :=
  (Command.made_run tokens).follows h.refl h.trans fun _ _ hgiven => h.follows_performed hgiven

/-! ### Histories -/

/-- The relation holds across every operation. -/
theorem follows_perform (o : Operation) : (perform o).Follows R := by
  cases o with
  | get request =>
    exact h.follows_reported (h.follows_of_made (h.access.made_getValue request)) _
  | set v => exact h.follows_reported (h.follows_of_made (h.access.made_setValue v)) _
  | takeFromBus v => exact h.follows_reported (h.arrival v) _
  | submitGets caller requests => exact fun _ => h.unseen rfl rfl rfl rfl
  | submitSets caller requests => exact fun _ => h.unseen rfl rfl rfl rfl
  | workGets => exact h.followsState_workGets
  | workSets => exact h.followsState_workSets
  | setRate key rate => exact h.followsState_setRate key rate
  | refresh key => exact h.follows_reported (h.follows_refresh key) _
  | save key => exact h.follows_reported (h.saving key) _
  | restore key => exact h.follows_reported (h.follows_restore key) _
  | startGenerator id generator => exact fun _ => h.unseen rfl rfl rfl rfl
  | stopGenerator id => exact fun _ => h.unseen rfl rfl rfl rfl
  | command tokens => exact h.follows_reported (h.follows_command tokens) _
  | listen listener => exact fun _ => h.unseen rfl rfl rfl rfl
  | listenForErrors listener => exact fun _ => h.unseen rfl rfl rfl rfl
  | wake => exact h.across_wake
  | stop => exact fun _ => h.unseen rfl rfl rfl rfl

/-- They hold across every operation, however it ends. -/
theorem across_after (hw : Hardware) (o : Operation) : R hw (hw.after o) := by
  rw [after_eq]
  exact h.follows_perform o hw

/-- They hold across every history. -/
theorem across_run (hw : Hardware) (history : List Operation) : R hw (hw.run history) := by
  induction history generalizing hw with
  | nil => exact h.refl hw
  | cons o rest ih => exact h.trans (h.across_after hw o) (ih (hw.after o))

end Closed

/-! ## Relations that leave the events aside -/

/-- Relations between benches that hold across each change of the records of the store and of the
prepared responses, and carry over from one to the next. -/
structure Stepwise (R : Hardware → Hardware → Prop) : Prop where
  /-- They carry over. -/
  trans : ∀ {hw mid hw'}, R hw mid → R mid hw' → R hw hw'
  /-- They hold across all other changes, during which the pool of the store is used at most. -/
  unseen : ∀ {hw hw' : Hardware}, hw'.store.records = hw.store.records → hw'.canned = hw.canned →
    hw.store.pool.Lent hw'.store.pool → R hw hw'
  /-- They hold when user management is asked for something. -/
  asking : ∀ request, (fromUserHal fun u => u.get request).Follows R
  /-- They hold when user management is told something. -/
  telling : ∀ v, (fromUserHal fun u => u.set v).Follows R
  /-- They hold when a value is written. -/
  writing : ∀ v updateStatus, (commit v updateStatus).Follows R
  /-- They hold when a slot is emptied. -/
  removal : ∀ v, (removeStored v).Follows R
  /-- They hold when the slots of a property are emptied. -/
  removalOfAll : ∀ prop, (removeAllStored prop).Follows R

/-- An access check leaves everything as it is. -/
theorem final_checkAccess (prop : Int32) (allowed : Access → Bool) (hw : Hardware) :
    (checkAccess prop allowed).final hw = hw := by
  have hget : (get : Op Hardware) hw = .ok hw hw := rfl
  rw [checkAccess, final_bind_ok hget]
  cases hw.store.config prop with
  | error e => rfl
  | ok config =>
    dsimp only
    split <;> rfl

namespace Stepwise

variable (h : Stepwise R)

include h

/-- They hold when nothing changes but the surroundings of the store and the events. -/
theorem of_store {hw hw' : Hardware} (hstore : hw'.store = hw.store)
    (hcanned : hw'.canned = hw.canned) : R hw hw' :=
  h.unseen (by rw [hstore]) hcanned (hstore ▸ .refl _)

/-- A look at the store that hands out copies is unseen. -/
theorem follows_read {f : Store → Except Failure α × Store} (hf : Store.HandsOut f) :
    (fromStore f).Follows R := fun hw => by
  rw [final_fromStore]
  exact h.unseen (hf.records hw.store) rfl (hf.lent hw.store)

/-- An announcement is unseen, as events are left aside. -/
theorem follows_announce (v : PropertyValue) : (announce v).Follows R := fun hw => by
  rw [final_announce]
  exact h.of_store rfl rfl

/-- A stepwise relation holds across a write. -/
theorem follows_write (v : PropertyValue) (updateStatus : Bool) : (write v updateStatus).Follows R :=
  (h.writing v updateStatus).bind h.trans fun change => by
    cases change with
    | none => exact fun _ => h.of_store rfl rfl
    | some change => exact h.follows_announce change

/-- A write whose outcome is looked at. -/
theorem follows_result (v : PropertyValue) (updateStatus : Bool) :
    (commit v updateStatus).result.Follows R := fun hw => by
  rw [final_result]
  exact h.writing v updateStatus hw

/-- A stepwise relation holds when a value is written back. -/
theorem follows_writeBack (v : PropertyValue) : (writeBack v).Follows R := by
  refine (h.follows_result v false).bind h.trans fun written => ?_
  split
  · exact h.follows_announce _
  · exact fun _ => h.of_store rfl rfl

/-- A stepwise relation holds when a value comes from the vehicle. -/
theorem follows_takeFromBus (v : PropertyValue) : (takeFromBus v).Follows R := by
  have hcopied : (copied v).Follows R := h.follows_read (Store.handsOut_copy v)
  refine hcopied.bind h.trans fun arrived =>
    (h.follows_result arrived false).bind h.trans fun written => ?_
  split
  · exact h.follows_announce _
  · exact fun _ => h.of_store rfl rfl
  · next e =>
    have hlook : (get : Op Hardware).Follows R := fun _ => h.of_store rfl rfl
    refine hlook.bind h.trans fun hw => ?_
    cases hw.errorListener with
    | none => exact fun _ => h.of_store rfl rfl
    | some listener =>
      intro hw
      rw [final_tell]
      exact h.of_store rfl rfl

/-- A stepwise relation holds when a value is put by. -/
theorem follows_save (key : PropertyKey) : (save key).Follows R := by
  have hread : (readStored (.ofKey key.prop key.area)).Follows R :=
    h.follows_read (Store.handsOut_found fun _ _ => rfl)
  refine Follows.bind h.trans (fun hw => ?_) fun v => fun _ => h.of_store rfl rfl
  rw [Op.during, final_mapFailure]
  exact hread hw

/-- A stepwise relation holds when a value that was put by is taken. -/
theorem follows_takeSaved (key : PropertyKey) : (takeSaved key).Follows R := by
  intro hw
  unfold final takeSaved
  cases hw.saved.get? key <;> exact h.of_store rfl rfl

/-- A stepwise relation holds across all steps of accesses. -/
theorem covers : Covers fun _ op => op.Follows R where
  now _ := h.of_store rfl rfl
  refuse _ _ := h.of_store rfl rfl
  check _ hw := by
    rw [final_ofExcept]
    exact h.of_store rfl rfl
  checkAccess prop allowed hw := by
    rw [final_checkAccess]
    exact h.of_store rfl rfl
  read hread _ := h.follows_read hread
  askUserHal := h.asking
  tellUserHal := h.telling
  write v updateStatus _ := h.follows_write v updateStatus
  writeBack := h.follows_writeBack
  removeStored := h.removal
  removeAllStored := h.removalOfAll

/-- They hold across everything that happens to a bench. -/
theorem closed : Closed R where
  trans := h.trans
  unseen store canned _ _ := h.of_store store canned
  access := h.covers
  arrival := h.follows_takeFromBus
  announcement v _ := h.follows_announce v
  saving := h.follows_save
  takingSaved := h.follows_takeSaved

end Stepwise

end BenchVehicle.Hardware
