import BenchVehicle.Proofs.Hardware.Closure
import BenchVehicle.Proofs.Hardware.Coherence
import BenchVehicle.Proofs.Hardware.Related

/-!
# The pool of a bench

With another pool a bench does the same: each operation gives the same result, tells listeners the
same and leaves the same values, and the two benches differ in their pools at most. This holds from
the start on. A pool that holds no more values than it may at the start never comes to hold more.
-/

namespace BenchVehicle

variable {α : Type}

namespace UserHal

/-! ## User management -/

/-- User management with another pool. -/
def withPool (u : UserHal) (pool : ValuePool) : UserHal := { u with pool }

/-- With another pool the response is the same. -/
theorem respond_withPool (u : UserHal) (pool : ValuePool) (request : PropertyValue) (id : Int32) :
    ∃ pool', (u.withPool pool).respond request id =
      ((u.respond request id).1, (u.respond request id).2.withPool pool') := by
  unfold respond withPool
  dsimp only
  cases u.canned.get? request.prop with
  | some canned => exact ⟨pool, rfl⟩
  | none =>
    refine ⟨(pool.obtain request.prop 0).2, ?_⟩
    dsimp only
    rw [ValuePool.fst_obtain, ValuePool.fst_obtain]

/-- With another pool the same response is prepared. -/
theorem prepare_withPool (u : UserHal) (pool : ValuePool) (response : PropertyValue) :
    ∃ pool', (u.withPool pool).prepare response = (u.prepare response).withPool pool' := by
  refine ⟨(pool.copy response).2, ?_⟩
  unfold prepare withPool
  dsimp only
  rw [ValuePool.fst_copy, ValuePool.fst_copy]

/-- With another pool a message is answered, or kept as a response, in the same way. -/
theorem respondOrPrepare_withPool (u : UserHal) (pool : ValuePool) (v : PropertyValue) (id : Int32) :
    ∃ pool', (u.withPool pool).respondOrPrepare v id =
      ((u.respondOrPrepare v id).1, (u.respondOrPrepare v id).2.withPool pool') := by
  unfold respondOrPrepare
  split
  · obtain ⟨pool', h⟩ := u.prepare_withPool pool v
    exact ⟨pool', by rw [h]⟩
  · obtain ⟨pool', h⟩ := u.respond_withPool pool v id
    exact ⟨pool', by rw [h]⟩

/-- With another pool user management takes and refuses the same sets. -/
theorem set_withPool (u : UserHal) (pool : ValuePool) (v : PropertyValue) :
    ∃ pool', (u.withPool pool).set v = (u.set v).map fun r => (r.1, r.2.withPool pool') := by
  unfold UserHal.set
  cases requestId v with
  | error e => exact ⟨pool, rfl⟩
  | ok id =>
    dsimp only [bind, Except.bind]
    obtain ⟨pool', h⟩ := u.respondOrPrepare_withPool pool v id
    split
    · exact ⟨pool, rfl⟩
    split
    · split
      · exact ⟨pool, rfl⟩
      · exact ⟨pool', by rw [h]; rfl⟩
    split
    · exact ⟨pool', by rw [h]; rfl⟩
    · exact ⟨pool, rfl⟩

/-- With another pool user management takes and refuses the same gets. -/
theorem get_withPool (u : UserHal) (pool : ValuePool) (request : PropertyValue) :
    ∃ pool', (u.withPool pool).get request =
      (u.get request).map fun r => (r.1, r.2.withPool pool') := by
  unfold UserHal.get
  split
  · exact ⟨pool, rfl⟩
  · cases requestId request with
    | error e => exact ⟨pool, rfl⟩
    | ok id =>
      obtain ⟨pool', h⟩ := u.respond_withPool pool request id
      refine ⟨pool', ?_⟩
      dsimp only [bind, Except.bind]
      rw [h]
      rfl

/-- A response takes one value out of the pool at most. -/
theorem lent_respond (u : UserHal) (request : PropertyValue) (id : Int32) :
    u.pool.Lent (u.respond request id).2.pool := by
  unfold respond
  cases u.canned.get? request.prop with
  | some canned => exact .refl _
  | none => exact ValuePool.lent_obtain _ _ _

/-- So does a message that is answered or prepares a response. -/
theorem lent_respondOrPrepare (u : UserHal) (v : PropertyValue) (id : Int32) :
    u.pool.Lent (u.respondOrPrepare v id).2.pool := by
  unfold respondOrPrepare
  split
  · exact ValuePool.lent_copy _ _
  · exact u.lent_respond v id

/-- A set only takes values out of the pool of user management. -/
theorem lent_set {u u' : UserHal} {v : PropertyValue} {response : Option PropertyValue}
    (h : u.set v = .ok (response, u')) : u.pool.Lent u'.pool := by
  unfold UserHal.set at h
  cases hid : requestId v with
  | error e =>
    rw [hid] at h
    cases h
  | ok id =>
    have hlent := u.lent_respondOrPrepare v id
    rw [hid] at h
    dsimp only [bind, Except.bind] at h
    split at h
    · cases h
      exact .refl _
    split at h
    · split at h
      · cases h
        exact .refl _
      · rwa [Except.ok.inj h] at hlent
    split at h
    · rwa [Except.ok.inj h] at hlent
    · cases h

/-- A get only takes values out of the pool of user management. -/
theorem lent_get {u u' : UserHal} {request response : PropertyValue}
    (h : u.get request = .ok (response, u')) : u.pool.Lent u'.pool := by
  unfold UserHal.get at h
  split at h
  · cases h
  · cases hid : requestId request with
    | error e =>
      rw [hid] at h
      cases h
    | ok id =>
      rw [hid] at h
      cases h
      exact u.lent_respond request id

end UserHal

namespace Hardware

open Op

/-- The bench with another pool. -/
def withPool (hw : Hardware) (pool : ValuePool) : Hardware :=
  { hw with store := hw.store.withPool pool }

/-- That two benches differ in their pools at most. -/
def SameButPool (hw hw' : Hardware) : Prop := ∃ pool, hw' = hw.withPool pool

/-- A bench differs from itself in nothing. -/
theorem SameButPool.refl (hw : Hardware) : SameButPool hw hw := ⟨hw.store.pool, rfl⟩

/-- An operation respects the difference if no other pool changes what it does. -/
theorem respects_of_withPool {op : Op α}
    (h : ∀ hw pool, Agree SameButPool (op hw) (op (hw.withPool pool))) :
    op.Respects SameButPool := by
  rintro hw _ ⟨pool, rfl⟩
  exact h hw pool

/-! ## Gets and sets -/

/-- What the store does in the same way with every pool the bench does too. -/
theorem respects_fromStore {f : Store → Except Failure α × Store}
    (hf : ∀ s pool, ∃ pool', f (s.withPool pool) = ((f s).1, (f s).2.withPool pool')) :
    (fromStore f).Respects SameButPool := by
  rintro hw _ ⟨pool, rfl⟩
  obtain ⟨pool', h⟩ := hf hw.store pool
  have hstore : (hw.withPool pool).store = hw.store.withPool pool := rfl
  unfold fromStore
  rw [hstore, h]
  cases f hw.store with
  | mk found s =>
    cases found with
    | ok a => exact .ok a ⟨pool', rfl⟩
    | error e => exact .error _ ⟨pool', rfl⟩

/-- What user management does in the same way with every pool the bench does too. -/
theorem respects_fromUserHal {f : UserHal → Except Failure (α × UserHal)}
    (hf : ∀ u pool, ∃ pool', f (u.withPool pool) =
      (f u).map fun r => (r.1, r.2.withPool pool')) :
    (fromUserHal f).Respects SameButPool := by
  rintro hw _ ⟨pool, rfl⟩
  obtain ⟨pool', h⟩ := hf hw.userHal pool
  have huser : (hw.withPool pool).userHal = hw.userHal.withPool pool := rfl
  unfold fromUserHal
  rw [huser, h]
  cases f hw.userHal with
  | error e => exact .error _ ⟨pool, rfl⟩
  | ok r => exact .ok r.1 ⟨pool', rfl⟩

/-- Nothing that gets, sets and refreshes look at depends on the pool. -/
theorem overlooked_sameButPool : Overlooked SameButPool where
  listeners := by
    rintro hw _ ⟨pool, rfl⟩
    exact ⟨rfl, rfl⟩
  config := by
    rintro hw _ ⟨pool, rfl⟩ prop
    rfl
  now := respects_of_withPool fun _ pool => .ok _ ⟨pool, rfl⟩
  tell listener event := by
    rintro hw _ ⟨pool, rfl⟩
    unfold tell
    dsimp only
    split
    · exact .error _ ⟨pool, rfl⟩
    · exact .ok _ ⟨pool, rfl⟩
  read hf := respects_fromStore hf.withPool
  commit v updateStatus := respects_fromStore fun s pool => by
    obtain ⟨pool', h⟩ := s.write_withPool pool v updateStatus
    rw [h]
    cases s.write v updateStatus with
    | error e => exact ⟨pool, rfl⟩
    | ok r => exact ⟨pool', rfl⟩
  removeStored v := respects_fromStore fun s pool => by
    obtain ⟨pool', h⟩ := s.remove_withPool pool v
    exact ⟨pool', by rw [h]⟩
  removeAllStored prop := respects_fromStore fun s pool => by
    obtain ⟨pool', h⟩ := s.removeAll_withPool pool prop
    exact ⟨pool', by rw [h]⟩
  askUserHal request := respects_fromUserHal fun u pool => u.get_withPool pool request
  tellUserHal v := respects_fromUserHal fun u pool => u.set_withPool pool v

/-- Gets do not depend on the pool. -/
theorem respects_getValue (request : PropertyValue) : (getValue request).Respects SameButPool :=
  (overlooked_sameButPool.covers.made_getValue request).respects fun _ _ h => h

/-- Sets do not depend on the pool. -/
theorem respects_setValue (v : PropertyValue) : (setValue v).Respects SameButPool :=
  (overlooked_sameButPool.covers.made_setValue v).respects fun _ _ h => h

/-- Refreshes do not depend on the pool. -/
theorem respects_refresh (key : PropertyKey) : (refresh key).Respects SameButPool :=
  (overlooked_sameButPool.covers.made_refresh key).respects fun _ _ h => h

/-! ## Values put by -/

/-- Putting a value by does not depend on the pool. -/
theorem respects_save (key : PropertyKey) : (save key).Respects SameButPool := by
  have hread := overlooked_sameButPool.read (Store.handsOut_read (.ofKey key.prop key.area))
  exact (hread.mapFailure _).bind fun _ => respects_of_withPool fun _ pool => .ok _ ⟨pool, rfl⟩

/-- Taking a value that was put by does not depend on the pool. -/
theorem respects_takeSaved (key : PropertyKey) : (takeSaved key).Respects SameButPool := by
  rintro hw _ ⟨pool, rfl⟩
  have hsaved : (hw.withPool pool).saved = hw.saved := rfl
  unfold takeSaved
  rw [hsaved]
  cases hw.saved.get? key with
  | none => exact .error _ ⟨pool, rfl⟩
  | some v => exact .ok _ ⟨pool, rfl⟩

/-- Writing back a value that was put by does not depend on the pool. -/
theorem respects_restore (key : PropertyKey) : (restore key).Respects SameButPool :=
  (respects_takeSaved key).bind fun _ => overlooked_sameButPool.now.bind fun _ =>
    (overlooked_sameButPool.respects_write _ _).mapFailure _

/-! ## Commands -/

/-- What a command does to the bench does not depend on the pool. -/
theorem respects_performed {named : PropertyKey → Prop} {op : Op α}
    (h : Command.Performed named op) : op.Respects SameButPool := by
  cases h with
  | look hf =>
    refine respects_get ?_ fun _ => respects_pure _
    rintro hw _ ⟨pool, rfl⟩
    exact congrArg Pure.pure (hf hw pool)
  | getValue request => exact respects_getValue request
  | setValue v => exact respects_setValue v
  | takeFromBus v => exact overlooked_sameButPool.respects_takeFromBus v
  | save => exact respects_save _
  | restore => exact respects_restore _
  | startGenerator id generator => exact respects_of_withPool fun _ pool => .ok _ ⟨pool, rfl⟩
  | stopGenerator id => exact respects_of_withPool fun _ pool => .ok _ ⟨pool, rfl⟩
  | now => exact overlooked_sameButPool.now
  | announce v => exact overlooked_sameButPool.respects_announce v

/-- Commands do not depend on the pool. -/
theorem respects_command (tokens : List String) : (Command.run tokens).Respects SameButPool :=
  (Command.made_run tokens).respects fun _ _ h => respects_performed h

/-! ## Workers -/

/-- A batch of gets does not depend on the pool. -/
theorem respectsState_workGets : RespectsState SameButPool workGets := by
  refine respectsState_get ?_ fun hw => ?_
  · rintro hw _ ⟨pool, rfl⟩
    rfl
  cases hw.gets.advance.finish? with
  | none => exact respectsState_pure _
  | some r =>
    refine RespectsState.bind ?_ fun _ => respectsState_resolve (fun request => ?_) r.1
    · rintro hw _ ⟨pool, rfl⟩
      exact ⟨rfl, pool, rfl⟩
    · exact (overlooked_sameButPool.respectsState_serveGet request).bind fun _ =>
        respectsState_pure _

/-- A batch of sets does not depend on the pool. -/
theorem respectsState_workSets : RespectsState SameButPool workSets := by
  refine respectsState_get ?_ fun hw => ?_
  · rintro hw _ ⟨pool, rfl⟩
    rfl
  cases hw.sets.advance.finish? with
  | none => exact respectsState_pure _
  | some r =>
    refine RespectsState.bind ?_ fun _ => respectsState_resolve (fun request => ?_) r.1
    · rintro hw _ ⟨pool, rfl⟩
      exact ⟨rfl, pool, rfl⟩
    · exact (overlooked_sameButPool.respectsState_serveSet request).bind fun _ =>
        respectsState_pure _

/-! ## The passing of time -/

/-- A round of samples does not depend on the pool. -/
theorem sameButPool_fireSampler {hw hw' : Hardware} (h : SameButPool hw hw') :
    SameButPool hw.fireSampler hw'.fireSampler := by
  obtain ⟨pool, rfl⟩ := h
  have hsampler : (hw.withPool pool).sampler = hw.sampler := rfl
  unfold fireSampler
  rw [hsampler]
  dsimp only
  cases hw.sampler.timer.fire.1 with
  | none => exact ⟨pool, rfl⟩
  | some fired =>
    have hfired : SameButPool
        { hw with sampler := { hw.sampler with timer := hw.sampler.timer.fire.2 } }
        { hw.withPool pool with
          sampler := { hw.sampler with timer := hw.sampler.timer.fire.2 } } := ⟨pool, rfl⟩
    have hagree := respects_refresh fired.2.action hfired
    dsimp only
    generalize refresh fired.2.action { hw with
      sampler := { hw.sampler with timer := hw.sampler.timer.fire.2 } } = first at hagree
    generalize refresh fired.2.action { hw.withPool pool with
      sampler := { hw.sampler with timer := hw.sampler.timer.fire.2 } } = second at hagree
    cases hagree with
    | ok _ hmid => exact hmid
    | error e hmid =>
      obtain ⟨pool', rfl⟩ := hmid
      cases e <;> exact ⟨pool', rfl⟩

/-- Neither does a round of generators. -/
theorem sameButPool_fireGenerator {hw hw' : Hardware} (h : SameButPool hw hw') :
    SameButPool hw.fireGenerator hw'.fireGenerator := by
  obtain ⟨pool, rfl⟩ := h
  have hclock : (hw.withPool pool).clock = hw.clock := rfl
  have hhub : (hw.withPool pool).hub = hw.hub := rfl
  unfold fireGenerator
  rw [hclock, hhub]
  dsimp only
  cases (hw.hub.fire hw.clock.read.1).1 with
  | none => exact ⟨pool, rfl⟩
  | some v =>
    have hfired : SameButPool
        { hw with hub := (hw.hub.fire hw.clock.read.1).2, clock := hw.clock.read.2 }
        { hw.withPool pool with
          hub := (hw.hub.fire hw.clock.read.1).2, clock := hw.clock.read.2 } := ⟨pool, rfl⟩
    have hagree := overlooked_sameButPool.respects_takeFromBus v hfired
    dsimp only
    generalize takeFromBus v { hw with
      hub := (hw.hub.fire hw.clock.read.1).2, clock := hw.clock.read.2 } = first at hagree
    generalize takeFromBus v { hw.withPool pool with
      hub := (hw.hub.fire hw.clock.read.1).2, clock := hw.clock.read.2 } = second at hagree
    cases hagree with
    | ok _ hmid => exact hmid
    | error e hmid =>
      obtain ⟨pool', rfl⟩ := hmid
      cases e <;> exact ⟨pool', rfl⟩

/-- Neither does the time of the next sample. -/
theorem sameButPool_awaitSampler {hw hw' : Hardware} (h : SameButPool hw hw') :
    SameButPool hw.awaitSampler hw'.awaitSampler := by
  obtain ⟨pool, rfl⟩ := h
  have hsampler : (hw.withPool pool).sampler = hw.sampler := rfl
  have hclock : (hw.withPool pool).clock = hw.clock := rfl
  unfold awaitSampler
  rw [hsampler, hclock]
  split <;> exact ⟨pool, rfl⟩

/-- Neither does the time at which generators are next due. -/
theorem sameButPool_awaitGenerators {hw hw' : Hardware} (h : SameButPool hw hw') :
    SameButPool hw.awaitGenerators hw'.awaitGenerators := by
  obtain ⟨pool, rfl⟩ := h
  have hhub : (hw.withPool pool).hub = hw.hub := rfl
  have hclock : (hw.withPool pool).clock = hw.clock := rfl
  unfold awaitGenerators
  rw [hhub, hclock]
  split <;> exact ⟨pool, rfl⟩

/-- What comes due does not depend on the pool. -/
theorem sameButPool_wake {hw hw' : Hardware} (h : SameButPool hw hw') :
    SameButPool hw.wake hw'.wake := by
  have hsampler : hw'.sampler = hw.sampler := by
    obtain ⟨pool, rfl⟩ := h
    rfl
  have hhub : hw'.hub = hw.hub := by
    obtain ⟨pool, rfl⟩ := h
    rfl
  unfold wake
  rw [hsampler, hhub]
  split
  · exact sameButPool_fireSampler h
  split
  · exact sameButPool_fireGenerator h
  split
  · split
    · exact sameButPool_awaitGenerators h
    · exact sameButPool_awaitSampler h
  · exact sameButPool_awaitSampler h
  · exact sameButPool_awaitGenerators h

/-! ## Histories -/

/-- An operation answers alike if what it does to the bench does not depend on the pool. -/
theorem respects_answering {f : α → Answer} {c : StateM Hardware α}
    (hc : RespectsState SameButPool c) : (answering f c).Respects SameButPool := by
  intro hw hw' h
  obtain ⟨hresult, hmid⟩ := hc h
  have hanswering (hw : Hardware) : answering f c hw = .ok (f (c hw).1) (c hw).2 := rfl
  rw [hanswering, hanswering, hresult]
  exact .ok _ hmid

/-- A change of a sample rate does not depend on the pool. -/
theorem respectsState_setRate (key : PropertyKey) (rate : Single) :
    RespectsState SameButPool (setRate key rate) := by
  rintro hw _ ⟨pool, rfl⟩
  simp only [setRate, modifyGet, MonadStateOf.modifyGet, StateT.modifyGet]
  split <;> exact ⟨rfl, pool, rfl⟩

/-- No operation tells two benches apart that differ in their pools. -/
theorem respects_perform (o : Operation) : (perform o).Respects SameButPool := by
  have hchanged {f : Hardware → Hardware}
      (hf : ∀ hw pool, SameButPool (f hw) (f (hw.withPool pool))) :
      (do modify f; return .done : Op Answer).Respects SameButPool :=
    respects_of_withPool fun hw pool => .ok _ (hf hw pool)
  cases o with
  | get request => exact (respects_getValue request).bind fun _ => respects_pure _
  | set v => exact (respects_setValue v).bind fun _ => respects_pure _
  | takeFromBus v =>
    exact (overlooked_sameButPool.respects_takeFromBus v).bind fun _ => respects_pure _
  | submitGets caller requests => exact respects_of_withPool fun _ pool => .ok _ ⟨pool, rfl⟩
  | submitSets caller requests => exact respects_of_withPool fun _ pool => .ok _ ⟨pool, rfl⟩
  | workGets => exact respects_answering respectsState_workGets
  | workSets => exact respects_answering respectsState_workSets
  | setRate key rate => exact respects_answering (respectsState_setRate key rate)
  | refresh key => exact (respects_refresh key).bind fun _ => respects_pure _
  | save key => exact (respects_save key).bind fun _ => respects_pure _
  | restore key => exact (respects_restore key).bind fun _ => respects_pure _
  | startGenerator id generator => exact respects_of_withPool fun _ pool => .ok _ ⟨pool, rfl⟩
  | stopGenerator id => exact respects_of_withPool fun _ pool => .ok _ ⟨pool, rfl⟩
  | command tokens => exact (respects_command tokens).bind fun _ => respects_pure _
  | listen listener => exact hchanged fun _ pool => ⟨pool, rfl⟩
  | listenForErrors listener => exact hchanged fun _ pool => ⟨pool, rfl⟩
  | wake => exact hchanged fun _ pool => sameButPool_wake ⟨pool, rfl⟩
  | stop => exact hchanged fun _ pool => ⟨pool, rfl⟩

/-- The result of an operation. -/
def reply (hw : Hardware) (o : Operation) : Except Interruption Answer :=
  match perform o hw with
  | .ok a _ => .ok a
  | .error e _ => .error e

/-- The results of a history. -/
def replies (hw : Hardware) : List Operation → List (Except Interruption Answer)
  | [] => []
  | o :: rest => hw.reply o :: (hw.after o).replies rest

/-- Benches that differ in their pools answer alike and differ in them at most afterwards. -/
theorem SameButPool.after {hw hw' : Hardware} (h : SameButPool hw hw') (o : Operation) :
    hw'.reply o = hw.reply o ∧ SameButPool (hw.after o) (hw'.after o) := by
  have hagree := respects_perform o h
  unfold reply Hardware.after
  generalize perform o hw = first at hagree
  generalize perform o hw' = second at hagree
  cases hagree with
  | ok a hmid => exact ⟨rfl, hmid⟩
  | error e hmid => exact ⟨rfl, hmid⟩

/-- A history gives the same results and leaves benches that differ in their pools at most. -/
theorem SameButPool.run {hw hw' : Hardware} (h : SameButPool hw hw') (history : List Operation) :
    hw'.replies history = hw.replies history ∧ SameButPool (hw.run history) (hw'.run history) := by
  induction history generalizing hw hw' with
  | nil => exact ⟨rfl, h⟩
  | cons o rest ih =>
    obtain ⟨hreply, hafter⟩ := h.after o
    obtain ⟨hrest, hrun⟩ := ih hafter
    exact ⟨congrArg₂ List.cons hreply hrest, hrun⟩

/-! ## The start -/

/-- The same values are taken at the start. -/
theorem writeAt_withPool (hw : Hardware) (pool : ValuePool) (v : PropertyValue) (time : Int64) :
    ∃ pool', (hw.withPool pool).writeAt v time =
      ((hw.writeAt v time).1, (hw.writeAt v time).2.withPool pool') := by
  obtain ⟨pool', hwrite⟩ := hw.store.write_withPool pool { v with timestamp := time } true
  have hstore : (hw.withPool pool).store = hw.store.withPool pool := rfl
  unfold writeAt
  rw [hstore, hwrite]
  cases hw.store.write { v with timestamp := time } true with
  | error e => exact ⟨pool, rfl⟩
  | ok r => exact ⟨pool', rfl⟩

/-- A stamped write does not depend on the pool. -/
theorem sameButPool_writeNow {hw hw' : Hardware} (h : SameButPool hw hw') (v : PropertyValue) :
    SameButPool (hw.writeNow v) (hw'.writeNow v) := by
  obtain ⟨pool, rfl⟩ := h
  obtain ⟨pool', hwritten⟩ :=
    writeAt_withPool { hw with clock := hw.clock.read.2 } pool v hw.clock.read.1
  exact ⟨pool', congrArg Prod.snd hwritten⟩

/-- Goes on if a value was taken. -/
def ifTaken (next : Hardware → Hardware) : Bool × Hardware → Hardware
  | (true, hw) => next hw
  | (false, hw) => hw

/-- What follows a write follows it with either pool. -/
theorem sameButPool_ifTaken {next : Hardware → Hardware}
    (hnext : ∀ hw hw', SameButPool hw hw' → SameButPool (next hw) (next hw'))
    (hw : Hardware) (pool : ValuePool) (v : PropertyValue) (time : Int64) :
    SameButPool (ifTaken next (hw.writeAt v time))
      (ifTaken next ((hw.withPool pool).writeAt v time)) := by
  obtain ⟨pool', h⟩ := hw.writeAt_withPool pool v time
  have hmid : SameButPool (hw.writeAt v time).2 ((hw.writeAt v time).2.withPool pool') :=
    ⟨pool', rfl⟩
  rw [h]
  generalize hw.writeAt v time = result at hmid
  obtain ⟨taken, mid⟩ := result
  cases taken with
  | true => exact hnext _ _ hmid
  | false => exact hmid

/-- A blank value is the same out of any pool. -/
theorem sameButPool_takeBlank {hw hw' : Hardware} (h : SameButPool hw hw') (prop area : Int32) :
    (hw'.takeBlank prop area).1 = (hw.takeBlank prop area).1 ∧
      SameButPool (hw.takeBlank prop area).2 (hw'.takeBlank prop area).2 := by
  obtain ⟨pool, rfl⟩ := h
  refine ⟨?_, _, rfl⟩
  exact (ValuePool.fst_obtain _ prop area).trans (ValuePool.fst_obtain _ prop area).symm

/-- One thing after the other does not depend on the pool if each does not. -/
theorem sameButPool_foldl {f : Hardware → α → Hardware}
    (hf : ∀ hw hw' a, SameButPool hw hw' → SameButPool (f hw a) (f hw' a)) {hw hw' : Hardware}
    (h : SameButPool hw hw') (as : List α) : SameButPool (as.foldl f hw) (as.foldl f hw') := by
  induction as generalizing hw hw' with
  | nil => exact h
  | cons a rest ih => exact ih (hf hw hw' a h)

/-- What a declaration gives for an area is written with either pool. -/
theorem sameButPool_writeInitial (d : Declaration) (hw hw' : Hardware) (area : Int32)
    (h : SameButPool hw hw') : SameButPool (writeInitial d hw area) (writeInitial d hw' area) := by
  obtain ⟨hblank, htaken⟩ := sameButPool_takeBlank h d.config.prop area
  unfold writeInitial
  dsimp only
  split
  · exact h
  · rw [hblank]
    exact sameButPool_writeNow htaken _

/-- A declaration does not depend on the pool. -/
theorem sameButPool_declare (hw hw' : Hardware) (d : Declaration) (h : SameButPool hw hw') :
    SameButPool (declare hw d) (declare hw' d) := by
  obtain ⟨pool, rfl⟩ := h
  obtain ⟨pool', hregister⟩ := hw.store.register_withPool pool d.config (tokenRule d.config.prop)
  have hdeclared : SameButPool
      { hw with store := hw.store.register d.config (tokenRule d.config.prop) }
      { hw.withPool pool with
        store := (hw.store.withPool pool).register d.config (tokenRule d.config.prop) } :=
    ⟨pool', by rw [hregister]; rfl⟩
  unfold declare
  dsimp only
  split
  · exact hdeclared
  · exact sameButPool_foldl (sameButPool_writeInitial d) hdeclared _

/-- The live frame does not depend on the pool. -/
theorem sameButPool_writeLiveFrame {hw hw' : Hardware} (h : SameButPool hw hw') :
    SameButPool hw.writeLiveFrame hw'.writeLiveFrame := by
  obtain ⟨hblank, htaken⟩ := sameButPool_takeBlank h PropertyId.obd2LiveFrame 0
  unfold writeLiveFrame
  rw [overlooked_sameButPool.config h]
  split
  · exact h
  · dsimp only
    rw [hblank]
    exact sameButPool_writeNow htaken _

/-- Which frames are kept at the start does not depend on the pool. -/
theorem sameButPool_keepFrames (config : PropertyConfig) (last : Option Int64) {hw hw' : Hardware}
    (h : SameButPool hw hw') (faults : List String) :
    SameButPool (hw.keepFrames config last faults) (hw'.keepFrames config last faults) := by
  induction faults generalizing hw hw' last with
  | nil => exact h
  | cons fault rest ih =>
    obtain ⟨hblank, pool, htaken⟩ := sameButPool_takeBlank h PropertyId.obd2FreezeFrame 0
    unfold keepFrames
    dsimp only
    rw [hblank, htaken]
    exact sameButPool_ifTaken (fun _ _ => ih _) { (hw.takeBlank PropertyId.obd2FreezeFrame 0).2 with
      clock := (hw.takeBlank PropertyId.obd2FreezeFrame 0).2.clock.read.2 } pool _ _

/-- Nor do the kept frames of the declared property. -/
theorem sameButPool_writeFreezeFrames {hw hw' : Hardware} (h : SameButPool hw hw') :
    SameButPool hw.writeFreezeFrames hw'.writeFreezeFrames := by
  unfold writeFreezeFrames
  rw [overlooked_sameButPool.config h]
  split
  · exact h
  · exact sameButPool_keepFrames _ _ h _

/-- Benches of the same declarations differ in their pools at most. -/
theorem sameButPool_ofDeclarations (declarations : List Declaration) (overrides : List PropertyValue)
    (clock : Clock) (pool pool' : ValuePool) :
    SameButPool (ofDeclarations declarations overrides clock pool)
      (ofDeclarations declarations overrides clock pool') := by
  have hnew : SameButPool { store := { pool }, clock } { store := { pool := pool' }, clock } :=
    ⟨pool', rfl⟩
  have hdeclared := sameButPool_foldl sameButPool_declare hnew declarations
  have hoverridden := sameButPool_foldl (fun _ _ v h => sameButPool_writeNow h v) hdeclared overrides
  exact sameButPool_writeFreezeFrames (sameButPool_writeLiveFrame hoverridden)

/-! ## Capacity -/

/-- That the pool of a bench keeps within its capacity. -/
def PoolWithin (hw hw' : Hardware) : Prop := hw.store.pool.Within hw'.store.pool

/-- User management keeps within the capacity as long as it only takes values out. -/
theorem follows_fromUserHal_within {f : UserHal → Except Failure (α × UserHal)}
    (hf : ∀ u a u', f u = .ok (a, u') → u.pool.Lent u'.pool) :
    (fromUserHal f).Follows PoolWithin := by
  intro hw
  cases hresult : f hw.userHal with
  | error e =>
    rw [final_of_error (fromUserHal_of_error hresult)]
    exact (ValuePool.Lent.refl _).within
  | ok r =>
    rw [final_of_ok (fromUserHal_of_ok hresult)]
    exact (hf _ _ _ hresult).within

/-- Every step that operations are made of keeps within the capacity. -/
theorem stepwise_within : Stepwise PoolWithin where
  trans h h' := h.trans h'
  unseen _ _ hlent := hlent.within
  asking request := follows_fromUserHal_within fun u a u' h => u.lent_get h
  telling v := follows_fromUserHal_within fun u a u' h => u.lent_set h
  writing v updateStatus hw := by
    cases hwrite : hw.store.write v updateStatus with
    | error e =>
      rw [final_of_error (commit_of_error hwrite)]
      exact (ValuePool.Lent.refl _).within
    | ok r =>
      rw [final_of_ok (commit_of_ok hwrite)]
      exact Store.within_write hwrite
  removal v hw := by
    rw [removeStored, final_fromStore]
    exact hw.store.within_remove v
  removalOfAll prop hw := by
    rw [removeAllStored, final_fromStore]
    exact hw.store.within_removeAll prop

/-- Every step of the start keeps within the capacity. -/
theorem StartStep.within {given : List PropertyValue} {hw hw' : Hardware}
    (h : StartStep given hw hw') : PoolWithin hw hw' := by
  cases h with
  | declared config => exact hw.store.within_register config _
  | written hwrite => exact Store.within_write hwrite
  | used hlent => exact hlent.within

/-- A history keeps the pool within its capacity. -/
theorem within_run (hw : Hardware) (history : List Operation) :
    hw.store.pool.Within (hw.run history).store.pool :=
  stepwise_within.closed.across_run hw history

/-- So does the start. -/
theorem within_ofDeclarations (declarations : List Declaration) (overrides : List PropertyValue)
    (clock : Clock) (pool : ValuePool) :
    pool.Within (ofDeclarations declarations overrides clock pool).store.pool :=
  (starts_ofDeclarations declarations overrides clock pool).keeps
    (P := fun hw => pool.Within hw.store.pool) (fun _ _ hstep h => h.trans hstep.within)
    (ValuePool.Lent.refl pool).within

/-! ## Two pools -/

/-- Whatever its pool holds and may hold, a store gives the same reports and holds the same records,
and a bench gives the same replies and is the same but for its pool, so it told its listeners the
same. A pool that holds no more values than it may when it is taken up never does. -/
theorem pool_unobserved (pool pool' : ValuePool) :
    (∀ (s : Store) (operations : List Store.Operation),
      ((s.withPool pool').run operations).1 = ((s.withPool pool).run operations).1 ∧
      ((s.withPool pool').run operations).2.records = ((s.withPool pool).run operations).2.records) ∧
    (∀ (hw : Hardware) (history : List Operation),
      (hw.withPool pool').replies history = (hw.withPool pool).replies history ∧
      SameButPool ((hw.withPool pool).run history) ((hw.withPool pool').run history)) ∧
    (∀ (declarations : List Declaration) (overrides : List PropertyValue) (clock : Clock)
      (history : List Operation),
      (ofDeclarations declarations overrides clock pool').replies history =
        (ofDeclarations declarations overrides clock pool).replies history ∧
      SameButPool ((ofDeclarations declarations overrides clock pool).run history)
        ((ofDeclarations declarations overrides clock pool').run history)) ∧
    (pool.count ≤ pool.capacity →
      (∀ (s : Store) (operations : List Store.Operation),
        ((s.withPool pool).run operations).2.pool.count ≤ pool.capacity) ∧
      (∀ (hw : Hardware) (history : List Operation),
        ((hw.withPool pool).run history).store.pool.count ≤ pool.capacity) ∧
      ∀ (declarations : List Declaration) (overrides : List PropertyValue) (clock : Clock)
        (history : List Operation),
        ((ofDeclarations declarations overrides clock pool).run history).store.pool.count ≤
          pool.capacity) := by
  refine ⟨fun s operations => ?_, fun hw history => ?_,
    fun declarations overrides clock history => ?_,
    fun hcount => ⟨fun s operations => ?_, fun hw history => ?_,
      fun declarations overrides clock history => ?_⟩⟩
  · obtain ⟨_, h⟩ := (s.withPool pool).run_withPool pool' operations
    rw [Store.withPool_withPool] at h
    rw [h]
    exact ⟨rfl, rfl⟩
  · have hstart : SameButPool (hw.withPool pool) (hw.withPool pool') := ⟨pool', rfl⟩
    exact hstart.run history
  · exact (sameButPool_ofDeclarations declarations overrides clock pool pool').run history
  · exact ((s.withPool pool).within_run operations).bound hcount
  · exact ((hw.withPool pool).within_run history).bound hcount
  · have hstart := within_ofDeclarations declarations overrides clock pool
    exact (hstart.trans (within_run _ history)).bound hcount

/-- A pool that may hold one value holds one of another property, all of which is left over from its
use. It comes to hold a value of the store, and is never over its capacity. -/
theorem pool_unobserved_of_leftovers :
    let leftover : PropertyValue :=
      { prop := 9, area := 4, timestamp := 7, status := .error, payload := { int32s := [1, 2] } }
    let pool : ValuePool := { capacity := 1, free := [leftover] }
    let d : Declaration := { config := { prop := 5, type := .int32 }, initial := { int32s := [3] } }
    let number (n : Int32) : PropertyValue := { prop := 5, payload := { int32s := [n] } }
    let history : List Operation := [.set (number 7), .set (number 8), .get (.ofKey 5 0)]
    let hw := ofDeclarations [d] [] (.ticking 2000000) pool
    pool.count ≤ pool.capacity ∧ (hw.run (history.take 2)).store.pool.free.map (·.prop) = [5] ∧
      (hw.run history).store.pool.count ≤ pool.capacity ∧
      (ofDeclarations [d] [] (.ticking 2000000) {}).replies history = hw.replies history := by
  intro leftover pool d number history
  dsimp only
  have hcount : pool.count ≤ pool.capacity := by decide
  obtain ⟨-, -, hruns, hbounds⟩ := pool_unobserved pool {}
  obtain ⟨-, -, hbound⟩ := hbounds hcount
  refine ⟨hcount, by decide +kernel, ?_, (hruns [d] [] (.ticking 2000000) history).1⟩
  exact hbound [d] [] (.ticking 2000000) history

end Hardware

end BenchVehicle
