import BenchVehicle.Proofs.Hardware.ClimatePower
import BenchVehicle.Proofs.Hardware.Refresh

/-!
# Climate power along a history

Whatever happens to a bench, its climate power is what was last accepted for it. What clients and the
vehicle bring is written at once. A command brings what the operation brings that it words, and a
generator what the vehicle might have sent. A refresh takes the value away and writes it again, but it
writes what it took.
-/

namespace BenchVehicle.Hardware

open Op Store

variable {hw mid hw' : Hardware} {v : PropertyValue}

/-! ## What brings no value -/

/-- That no value was accepted as climate power. -/
def KeepsPower (hw hw' : Hardware) : Prop :=
  hw.store.Coherent → hw'.store.Coherent ∧ PowerAfter [] hw.store hw'.store

/-- Where the store looks the same no power was accepted. -/
theorem KeepsPower.of_same (h : Same hw.store hw'.store) : KeepsPower hw hw' :=
  fun hc => ⟨hc.same h, .of_same h⟩

/-- Where nothing happens no power was accepted. -/
theorem KeepsPower.refl (hw : Hardware) : KeepsPower hw hw := .of_same (.refl _)

/-- Where none was accepted in either of two steps none was in both. -/
theorem KeepsPower.trans (h : KeepsPower hw mid) (h' : KeepsPower mid hw') : KeepsPower hw hw' :=
  fun hc => ⟨(h' (h hc).1).1, (h hc).2.trans (h' (h hc).1).2⟩

/-- What is written back keeps the values of all other properties. -/
theorem keeps_writeBack (v : PropertyValue) : (writeBack v).Follows (Keeps [v.prop]) := by
  intro hw
  cases hwrite : hw.store.write v false with
  | error e =>
    rw [final_writeBack_of_error hwrite]
    exact .of_records rfl
  | ok r =>
    rw [final_writeBack_of_ok hwrite]
    intro hk
    obtain ⟨rules, hwritten⟩ := written_of_write hk hwrite
    exact hwritten.sameBut.mono fun prop slot hhere => List.mem_singleton.mpr hhere.1

/-- A refresh of climate power writes the payload that it reads, and any other one writes another
property. -/
theorem keepsPower_refresh (key : PropertyKey) : (Hardware.refresh key).Follows KeepsPower := by
  intro hw hc
  have hc' := Reaches.coherent (closed_reaches.follows_refresh key hw) hc
  refine ⟨hc', ?_⟩
  cases hsampled : hw.store.sampled key with
  | none =>
    rw [final_refresh_of_not_sampled hsampled]
    exact .of_same (.refl _)
  | some v =>
    have hprop : v.prop = key.prop := hc.prop_of_sampled hsampled
    by_cases hkey : key.prop = PropertyId.hvacPowerOn
    · have hstored : hw.store.stored? key = some v := by
        rw [← hsampled, sampled, hkey]
        rfl
      obtain ⟨rules, hrules, hvalue⟩ := stored?_eq_some.mp hstored
      obtain ⟨-, hslot, hallowed⟩ := hc.placed key.prop rules _ v hrules hvalue
      obtain ⟨time, t, clock, hfinal, hrules', hvalue', -⟩ :=
        final_refresh_of_taken hc.keyed hsampled (hprop ▸ hrules) hallowed
      rw [hfinal]
      refine ⟨hrules', ?_⟩
      have hplace : rules.slotOf { v with timestamp := time } = rules.slotOf v := by
        unfold SlotRules.slotOf
        rw [hc.token key.prop rules hrules, tokenRule_of_ne (ne_of_sampled hsampled)]
        rfl
      rw [hkey] at hrules
      rw [power?_of_rules ((hrules' _).trans hrules), power?_of_rules hrules, hvalue', hplace, hslot,
        hprop, hkey]
      split
      · next hhere =>
        rw [hhere.2, ← hkey, hvalue]
        rfl
      · rfl
    · have hne : v.prop ≠ PropertyId.hvacPowerOn := hprop ▸ hkey
      obtain ⟨time, pool, clock, hfinal⟩ := final_refresh_of_sampled hsampled
      have hpool : Same hw.store (hw.store.withPool pool) := .of_records rfl
      have hk := hpool.keyed hc.keyed
      have hremoved := sameBut_remove hk { v with timestamp := time }
      have hwritten := keeps_writeBack { v with timestamp := time }
        { hw with store := (hw.store.withPool pool).remove { v with timestamp := time }, clock }
        (hremoved.keyed hk)
      rw [hfinal]
      exact .of_sameBut ((hpool.sameBut _).trans (hremoved.trans hwritten)) fun slot hhere =>
        hne (List.mem_singleton.mp hhere).symm

/-- No power is accepted in a get. -/
theorem keepsPower_getValue (request : PropertyValue) : (getValue request).Follows KeepsPower :=
  fun hw => .of_same (looked_getValue request hw).store

/-- No power is accepted in a get of a client. -/
theorem keepsPower_getForClient (request : PropertyValue) :
    (getForClient request).Follows KeepsPower := by
  intro hw
  rcases final_checked request.prop Access.canRead (getValue request) hw with h | h
  · exact h.symm ▸ KeepsPower.refl hw
  · exact h.symm ▸ keepsPower_getValue request hw

/-- No power is accepted when a value is put by. -/
theorem keepsPower_save (key : PropertyKey) : (Hardware.save key).Follows KeepsPower := by
  intro hw
  cases hstored : hw.store.stored? key with
  | none =>
    obtain ⟨e, he⟩ := save_of_not_stored hstored
    rw [final_of_error he]
    exact .refl hw
  | some v =>
    obtain ⟨pool, hok⟩ := save_of_stored hstored
    rw [final_of_ok hok]
    exact .of_same (.of_records rfl)

/-- No power is accepted in commands that write nothing. -/
theorem coversLooks_keepsPower : Command.CoversLooks fun _ op => op.Follows KeepsPower where
  look _ := .refl
  getValue := keepsPower_getValue
  startGenerator _ _ _ := .of_same (.of_records rfl)
  stopGenerator _ _ := .of_same (.of_records rfl)
  now _ := .of_same (.of_records rfl)
  announce v _ hw := by
    rw [final_announce]
    exact .of_same (.of_records rfl)

/-- No power is accepted in a round of samples. -/
theorem keepsPower_fireSampler (hw : Hardware) : KeepsPower hw hw.fireSampler :=
  across_fireSampler_of (R := KeepsPower) .trans (fun _ _ => .of_same (.of_records rfl))
    keepsPower_refresh hw

/-- The store looks the same while the next sample is waited for. -/
theorem same_awaitSampler (hw : Hardware) : Same hw.store hw.awaitSampler.store := by
  unfold awaitSampler
  split <;> exact .of_records rfl

/-- The store looks the same while generators are waited for. -/
theorem same_awaitGenerators (hw : Hardware) : Same hw.store hw.awaitGenerators.store := by
  unfold awaitGenerators
  split <;> exact .of_records rfl

/-- What a generator brings comes in like a value from the vehicle. -/
theorem powerAfter_fireGenerator (hc : hw.store.Coherent) :
    PowerAfter ((hw.hub.fire hw.clock.read.1).1.toList.flatMap hw.store.accepts) hw.store
      hw.fireGenerator.store := by
  unfold fireGenerator
  dsimp only
  cases (hw.hub.fire hw.clock.read.1).1 with
  | none => exact .of_same (.of_records rfl)
  | some v =>
    rw [Option.toList_some, List.flatMap_singleton]
    have harrived := powerAfter_takeFromBus
      { hw with hub := (hw.hub.fire hw.clock.read.1).2, clock := hw.clock.read.2 } hc v
    dsimp only
    split
    · next mid hmid => exact final_of_error hmid ▸ harrived
    · next mid hmid => exact final_of_ok hmid ▸ harrived
    · next mid _ hmid => exact final_of_error hmid ▸ harrived

/-- What comes due brings the event of a generator at most. -/
theorem powerAfter_wake (hc : hw.store.Coherent) :
    PowerAfter (hw.acceptedBy .wake) hw.store hw.wake.store := by
  dsimp only [acceptedBy]
  unfold generated? wake
  cases hsampler : hw.sampler.timer.round.isEmpty with
  | false => exact (keepsPower_fireSampler hw hc).2
  | true =>
    cases hhub : hw.hub.timer.round.isEmpty with
    | false => exact powerAfter_fireGenerator hc
    | true =>
      rw [if_neg (by decide), if_neg (by decide), if_neg (by decide)]
      refine .of_same ?_
      split
      · split
        · exact hw.same_awaitGenerators
        · exact hw.same_awaitSampler
      · exact hw.same_awaitSampler
      · exact hw.same_awaitGenerators

/-! ## Commands -/

/-- A command whose arguments are faulty does nothing. -/
theorem after_command_of_error {tokens : List String} {reading : Reading PropertyValue}
    {act : PropertyValue → Op String} {e : Unread}
    (hrun : Command.run tokens = do return { text := ← Command.withValue reading act })
    (hread : reading = .error e) (hw : Hardware) : hw.after (.command tokens) = hw := by
  have hperform : perform (.command tokens) = do return .report (← Command.run tokens) := rfl
  rw [after_eq, hperform, final_bind_of_still fun _ _ => rfl, hrun,
    final_bind_of_still fun _ _ => rfl, hread]
  cases e <;> rfl

/-- A command that does what an operation does on a value that it reads. -/
theorem powerAfter_worded {tokens : List String} {reading : Reading PropertyValue}
    {act : PropertyValue → Op String} (o : PropertyValue → Operation)
    (hrun : Command.run tokens = do return { text := ← Command.withValue reading act })
    (hact : ∀ v, reading = .ok v →
      PowerAfter (hw.acceptedBy (o v)) hw.store (hw.after (.command tokens)).store) :
    PowerAfter ((reading.toOption.map o).toList.flatMap hw.acceptedBy) hw.store
      (hw.after (.command tokens)).store := by
  cases hread : reading with
  | error e =>
    rw [after_command_of_error hrun hread]
    exact .of_same (.refl _)
  | ok v =>
    have hone : ((Except.ok v : Reading PropertyValue).toOption.map o).toList.flatMap
        hw.acceptedBy = hw.acceptedBy (o v) := List.flatMap_singleton ..
    rw [hone]
    exact hact v hread

/-- The command that sets a value, in either case of its name. -/
theorem run_set {name : String} {arguments : List String} (hname : lowerAscii name = "--set") :
    Command.run (name :: arguments) = do return { text := ← Command.setWith arguments } := by
  unfold Command.run
  dsimp only
  rw [hname]
  rfl

/-- The command that injects a value, in either case of its name. -/
theorem run_inject {name : String} {arguments : List String}
    (hname : lowerAscii name = "--inject-event") :
    Command.run (name :: arguments) = do return { text := ← Command.inject arguments } := by
  unfold Command.run
  dsimp only
  rw [hname]
  rfl

/-- The other commands write nothing. -/
theorem keepsPower_run (command : String) (arguments : List String)
    (hset : lowerAscii command ≠ "--set") (hrestore : lowerAscii command ≠ "--restore-prop")
    (hinject : lowerAscii command ≠ "--inject-event") :
    (Command.run (command :: arguments)).Follows KeepsPower := by
  have hlooks := coversLooks_keepsPower
  have htext {op : Op String} (hop : Made (fun _ op => op.Follows KeepsPower) op) :
      (do return { text := ← op } : Op Command.Report).Follows KeepsPower :=
    (hop.bind fun _ => .pure _).follows .refl .trans fun _ _ hgiven => hgiven
  have hsave : Made (fun _ op => op.Follows KeepsPower) (Command.save arguments) := by
    refine Command.made_withValue fun v _ => ?_
    refine (Made.given (keepsPower_save v.key)).result.bind fun found => ?_
    cases found <;> exact .pure _
  unfold Command.run
  dsimp only
  split
  · exact htext (.pure _)
  · exact htext hlooks.made_showIds
  · exact htext (hlooks.made_getEach arguments)
  · exact htext (hlooks.made_getWith arguments)
  · next h => exact absurd h hset
  · exact htext hsave
  · next h => exact absurd h hrestore
  · next h => exact absurd h hinject
  · exact htext (hlooks.made_userHal arguments)
  · exact htext (hlooks.made_makeUp arguments)
  · exact htext (.pure _)

/-- An injected value is power if the store takes it as one from the vehicle. -/
theorem powerAfter_inject (hc : hw.store.Coherent) {name : String} {arguments : List String}
    (hname : lowerAscii name = "--inject-event") (hread : Reading.valueOf 3 arguments = .ok v) :
    let timed := arguments.any fun t => ValueOption.ofToken? t = some .timestamp
    let arriving := if timed then v else { v with timestamp := hw.clock.now }
    PowerAfter (hw.store.accepts arriving) hw.store
      (hw.after (.command (name :: arguments))).store := by
  intro timed arriving
  have hperform : perform (.command (name :: arguments)) =
    do return .report (← Command.run (name :: arguments)) := rfl
  rw [after_eq, hperform, final_bind_of_still fun _ _ => rfl, run_inject hname,
    final_bind_of_still fun _ _ => rfl, Command.inject, hread, Command.withValue]
  dsimp only
  split
  · next htimed =>
    have harriving : arriving = v := if_pos htimed
    rw [harriving, pure_bind, final_bind_of_still fun _ _ => rfl]
    exact powerAfter_takeFromBus hw hc v
  · next htimed =>
    have harriving : arriving = { v with timestamp := hw.clock.now } := if_neg htimed
    rw [harriving, final_bind_ok (now_ok hw), pure_bind, final_bind_of_still fun _ _ => rfl]
    exact powerAfter_takeFromBus { hw with clock := hw.clock.read.2 } hc _

/-- A command writes what the operation does that it words. -/
theorem powerAfter_command (h : hw.Orderly) (tokens : List String) :
    PowerAfter (hw.accepted (.operation (.command tokens))) hw.store
      (hw.after (.command tokens)).store := by
  have hreport {op : Op Command.Report} : (do return .report (← op) : Op Answer).final hw =
      op.final hw := final_bind_of_still (fun _ _ => rfl) hw
  dsimp only [accepted]
  cases tokens with
  | nil =>
    have hrun : (Command.run []).Follows KeepsPower :=
      (coversLooks_keepsPower.made_showAll.bind fun _ => .pure _).follows .refl .trans
        fun _ _ hgiven => hgiven
    rw [after_eq, perform, hreport]
    exact (hrun hw h.coherent).2
  | cons command arguments =>
    rw [Command.operation?]
    by_cases hset : lowerAscii command = "--set"
    · rw [if_pos hset]
      refine powerAfter_worded .set (run_set hset) fun v hread => ?_
      rw [after_command Hardware.setValue (run_set hset) hread fun r _ => by cases r <;> rfl]
      exact powerAfter_setValue h v
    by_cases hrestore : lowerAscii command = "--restore-prop"
    · rw [if_neg hset, if_pos hrestore]
      refine powerAfter_worded (fun v => .restore v.key) (run_restore hrestore) fun v hread => ?_
      rw [(Operation.Restores.command hrestore hread rfl).after]
      exact powerAfter_restore h.coherent v.key
    by_cases hinject : lowerAscii command = "--inject-event"
    · rw [if_neg hset, if_neg hrestore, if_pos hinject]
      exact powerAfter_worded _ (run_inject hinject) fun v hread =>
        powerAfter_inject h.coherent hinject hread
    · rw [if_neg hset, if_neg hrestore, if_neg hinject, after_eq, perform, hreport]
      exact (keepsPower_run command arguments hset hrestore hinject hw h.coherent).2

/-! ## Operations -/

/-- The store looks the same when a sample rate changes. -/
theorem same_setRate (key : PropertyKey) (rate : Single) (hw : Hardware) :
    Same hw.store (Hardware.setRate key rate hw).2.store := by
  simp only [Hardware.setRate, modifyGet, MonadStateOf.modifyGet, StateT.modifyGet]
  split <;> exact .of_records rfl

/-- Climate power after an operation. -/
theorem powerAfter_after (h : hw.Orderly) (o : Operation) :
    PowerAfter (hw.accepted (.operation o)) hw.store (hw.after o).store := by
  have hdone {op : Op Unit} : (do op; return Answer.done : Op Answer).final hw = op.final hw :=
    final_bind_pure op Answer.done hw
  cases o with
  | set v =>
    rw [after_eq, perform, hdone]
    exact powerAfter_setValue h v
  | takeFromBus v =>
    rw [after_eq, perform, hdone]
    exact powerAfter_takeFromBus hw h.coherent v
  | restore key =>
    rw [after_eq, perform, hdone]
    exact powerAfter_restore h.coherent key
  | workSets => exact powerAfter_workSets h
  | wake => exact powerAfter_wake h.coherent
  | get request =>
    rw [after_eq, perform, final_bind_of_still fun _ _ => rfl]
    exact (keepsPower_getValue request hw h.coherent).2
  | workGets =>
    have hkeeps : FollowsState KeepsPower workGets := followsState_workGets_of .refl .trans
      (fun _ _ => .of_same (.of_records rfl)) keepsPower_getForClient
    exact (hkeeps hw h.coherent).2
  | refresh key =>
    rw [after_refresh]
    exact (keepsPower_refresh key hw h.coherent).2
  | save key =>
    rw [after_eq, perform, hdone]
    exact (keepsPower_save key hw h.coherent).2
  | setRate key rate => exact .of_same (same_setRate key rate hw)
  | command tokens => exact powerAfter_command h tokens
  | submitGets | submitSets | startGenerator | stopGenerator | listen | listenForErrors | stop =>
    exact .of_same (.of_records rfl)

/-! ## Everything that happens -/

/-- An orderly bench stays so whatever happens. -/
theorem Orderly.afterAct (h : hw.Orderly) (act : Act) : (hw.afterAct act).Orderly := by
  cases act with
  | operation o => exact h.after o
  | take => exact h.takeBatch
  | serve request => exact h.serve request

/-- Climate power after something happened. -/
theorem powerAfter_act (h : hw.Orderly) (act : Act) :
    PowerAfter (hw.accepted act) hw.store (hw.afterAct act).store := by
  cases act with
  | operation o => exact powerAfter_after h o
  | take => exact .of_same hw.same_takeBatch
  | serve request => exact powerAfter_serveSet h request

/-- After all that happens climate power is what was last accepted for it. -/
theorem powerAfter_runActs (h : hw.Orderly) (acts : List Act) :
    PowerAfter (hw.acceptedAlong acts) hw.store (hw.runActs acts).store := by
  induction acts generalizing hw with
  | nil => exact .of_same (.refl _)
  | cons act rest ih => exact (powerAfter_act h act).append (ih (h.afterAct act))

/-- After all that happened, climate power is what was last accepted. -/
theorem power?_runActs (h : hw.Orderly) (acts : List Act) :
    (hw.runActs acts).store.power? = hw.lastPower? acts := (powerAfter_runActs h acts).power

end BenchVehicle.Hardware
