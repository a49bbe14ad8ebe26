import BenchVehicle.Proofs.Hardware.Confinement
import BenchVehicle.Proofs.Hardware.SavedValues

/-!
# What climate power was set to

Climate power is the value of one instance: that of a property that is declared global, or for the
area that stands for all. Clients, batches, the vehicle, generators and what was put by may write it.
After each of them the instance holds the payload of the last value that was accepted for it, or what
it held if none was. Services write values of their own, but none of climate power.
-/

namespace BenchVehicle

/-- The instance of climate power. -/
def climatePower : PropertyKey := ⟨PropertyId.hvacPowerOn, Area.hvacAll⟩

namespace Store

variable {s mid t : Store} {v : PropertyValue} {rules : SlotRules} {vs ws : List PropertyValue}

/-! ## Values of climate power -/

/-- Whether a value is one of climate power: of the property, and for the area that stands for all
unless the property is global. -/
def isPower (s : Store) (v : PropertyValue) : Bool :=
  match s.config PropertyId.hvacPowerOn with
  | .ok config => v.prop = PropertyId.hvacPowerOn && (config.isGlobal || v.area = Area.hvacAll)
  | .error _ => false

/-- The payload of climate power, if it has a value. -/
def power? (s : Store) : Option Payload := (s.stored? climatePower).map PropertyValue.payload

/-- The payload of the last of some values that is one of climate power, if any is. -/
def lastPower? (s : Store) (vs : List PropertyValue) : Option Payload :=
  (vs.filter s.isPower).getLast?.map PropertyValue.payload

/-- Climate power lies in the slot of its instance. -/
theorem power?_of_rules (hrules : s.rules? PropertyId.hvacPowerOn = some rules) :
    s.power? = (s.value? PropertyId.hvacPowerOn (rules.slotOf climatePower.request)).map
      PropertyValue.payload :=
  congrArg (Option.map PropertyValue.payload) (stored?_of_rules hrules)

/-- No value of another property is one of climate power. -/
theorem isPower_of_ne (h : v.prop ≠ PropertyId.hvacPowerOn) : s.isPower v = false := by
  unfold isPower
  split
  · simp [h]
  · rfl

/-- Which values are of climate power is a matter of declarations. -/
theorem isPower_congr (h : ∀ prop, t.rules? prop = s.rules? prop) : t.isPower = s.isPower := by
  funext v
  unfold isPower
  rw [config_eq, config_eq, h]

/-- The values of climate power are those that go to the slot of its instance, at any time. -/
theorem isPower_iff_fits (hc : s.Coherent) (hrules : s.rules? PropertyId.hvacPowerOn = some rules)
    (time : Int64) : s.isPower v = true ↔ Fits rules climatePower { v with timestamp := time } := by
  have hconfig : s.config PropertyId.hvacPowerOn = .ok rules.config := by
    rw [config_eq, hrules]
  have htoken : rules.token = .single :=
    (hc.token _ rules hrules).trans (tokenRule_of_ne (by decide))
  have hslot : rules.slotOf { v with timestamp := time } = rules.slotOf climatePower.request ↔
      (rules.config.isGlobal || v.area = Area.hvacAll) = true := by
    unfold SlotRules.slotOf SlotRules.slot
    rw [htoken]
    cases rules.config.isGlobal with
    | true => exact iff_of_true rfl rfl
    | false => simp [TokenRule.single, climatePower, PropertyKey.request, PropertyValue.ofKey]
  unfold isPower
  rw [hconfig]
  dsimp only
  rw [Bool.and_eq_true, decide_eq_true_eq, ← hslot]
  exact ⟨fun h => ⟨h.1, h.2⟩, fun h => ⟨h.prop, h.slot⟩⟩

/-- Later values count before earlier ones. -/
theorem lastPower?_append (s : Store) (vs ws : List PropertyValue) :
    s.lastPower? (vs ++ ws) = (s.lastPower? ws).or (s.lastPower? vs) := by
  unfold lastPower?
  rw [List.filter_append, List.getLast?_append, Option.map_or]

/-- Among values of other properties there is none of climate power. -/
theorem lastPower?_of_ne (h : ∀ v ∈ vs, v.prop ≠ PropertyId.hvacPowerOn) :
    s.lastPower? vs = none := by
  have hnone : vs.filter s.isPower = [] :=
    List.filter_eq_nil_iff.mpr fun v hv => by simp [isPower_of_ne (h v hv)]
  unfold lastPower?
  rw [hnone]
  rfl

/-! ## What writes leave as climate power -/

/-- That climate power is what the last of some values says, or as it was if none of them is one of
climate power, and that nothing was declared anew. -/
structure PowerAfter (written : List PropertyValue) (s t : Store) : Prop where
  /-- The same properties are declared, in the same way. -/
  rules : ∀ prop, t.rules? prop = s.rules? prop
  /-- The last value counts. -/
  power : t.power? = (s.lastPower? written).or s.power?

/-- Where the instance holds what it held. -/
theorem PowerAfter.of_sameBut {touched : Int32 → Slot → Prop} (h : SameBut touched s t)
    (hpower : ∀ slot, ¬ touched PropertyId.hvacPowerOn slot) : PowerAfter [] s t where
  rules := h.rules
  power := by
    have hstored : t.stored? climatePower = s.stored? climatePower := by
      unfold stored?
      rw [h.rules]
      exact congrArg _ (funext fun rules => h.value _ _ (hpower _))
    exact congrArg (Option.map PropertyValue.payload) hstored

/-- Where the store looks the same climate power is as it was. -/
theorem PowerAfter.of_same (h : Same s t) : PowerAfter [] s t :=
  .of_sameBut (h.sameBut fun _ _ => False) fun _ => id

/-- What was written one after the other is written as a whole. -/
theorem PowerAfter.append (h : PowerAfter vs s mid) (h' : PowerAfter ws mid t) :
    PowerAfter (vs ++ ws) s t where
  rules prop := (h'.rules prop).trans (h.rules prop)
  power := by
    have hlast : mid.lastPower? ws = s.lastPower? ws := by
      unfold lastPower?
      rw [isPower_congr h.rules]
    rw [h'.power, hlast, h.power, lastPower?_append, Option.or_assoc]

/-- What happens before the writes without any changes nothing about them. -/
theorem PowerAfter.trans (h : PowerAfter [] s mid) (h' : PowerAfter ws mid t) :
    PowerAfter ws s t := h.append h'

/-- Values of other properties do not count. -/
theorem PowerAfter.of_ne (h : PowerAfter [] s t)
    (hne : ∀ v ∈ vs, v.prop ≠ PropertyId.hvacPowerOn) : PowerAfter vs s t where
  rules := h.rules
  power := by
    rw [h.power, lastPower?_of_ne hne]
    rfl

/-- A value that is written counts, whatever time it is written with. -/
theorem Written.powerAfter {time : Int64} {updateStatus : Bool} {change : Option PropertyValue}
    (hc : s.Coherent) (h : Written s { v with timestamp := time } updateStatus t change rules) :
    PowerAfter [v] s t where
  rules := h.rules_eq
  power := by
    by_cases hprop : v.prop = PropertyId.hvacPowerOn
    · have hrules : s.rules? PropertyId.hvacPowerOn = some rules := hprop ▸ h.declared
      have hrules' := (h.rules_eq PropertyId.hvacPowerOn).trans hrules
      have hiff := isPower_iff_fits (v := v) hc hrules time
      unfold lastPower?
      cases hpower : s.isPower v with
      | true =>
        obtain ⟨status, hsettled⟩ :=
          settled_eq (s.stored? climatePower) { v with timestamp := time } updateStatus
        rw [power?, h.stored_eq (hiff.mp hpower), hsettled, List.filter_cons_of_pos hpower]
        rfl
      | false =>
        have hslot : rules.slotOf climatePower.request ≠
            rules.slotOf { v with timestamp := time } := fun heq => by
          rw [hiff.mpr ⟨hprop, heq.symm⟩] at hpower
          cases hpower
        rw [power?_of_rules hrules', power?_of_rules hrules, h.value_eq,
          if_neg fun hhere => hslot hhere.2, List.filter_cons_of_neg (by simp [hpower])]
        rfl
    · have hne : climatePower.prop ≠ ({ v with timestamp := time } : PropertyValue).prop :=
        fun heq => hprop heq.symm
      have hlast : s.lastPower? [v] = none := lastPower?_of_ne fun w hw => by
        rw [List.mem_singleton] at hw
        exact hw ▸ hprop
      unfold power?
      rw [h.stored_of_ne hne, hlast]
      rfl

/-- The value, if the store takes it. -/
def accepts (s : Store) (v : PropertyValue) : List PropertyValue :=
  if (s.write v false).isOk then [v] else []

/-- Whether the store takes a value does not depend on the pool. -/
theorem accepts_withPool (s : Store) (pool : ValuePool) (v : PropertyValue) :
    (s.withPool pool).accepts v = s.accepts v := by
  obtain ⟨pool', h⟩ := s.write_withPool pool v false
  unfold accepts
  rw [h]
  cases s.write v false <;> rfl

end Store

/-- The value, unless the operation fails. A listener that goes down on an event of a write does not
undo the write. -/
def Op.accepts (op : Op Unit) (v : PropertyValue) (hw : Hardware) : List PropertyValue :=
  match op hw with
  | .error (.failed _) _ => []
  | _ => [v]

/-- The operation that a command words, if it is one that writes values. A value from the vehicle that
is made up without a time is of now. -/
def Command.operation? (now : Int64) : List String → Option Hardware.Operation
  | [] => none
  | command :: arguments =>
    if lowerAscii command = "--set" then (Reading.valueOf 3 arguments).toOption.map .set
    else if lowerAscii command = "--restore-prop" then
      (Reading.valueOf 2 arguments).toOption.map fun v => .restore v.key
    else if lowerAscii command = "--inject-event" then
      (Reading.valueOf 3 arguments).toOption.map fun v =>
        .takeFromBus <|
          if arguments.any fun t => ValueOption.ofToken? t = some .timestamp then v
          else { v with timestamp := now }
    else none

namespace Hardware

open Op Store

variable {hw mid hw' : Hardware} {v : PropertyValue}

/-! ## What operations write -/

/-- The sets that their worker finds when it goes on. -/
def batch (hw : Hardware) : List SetRequest :=
  match hw.sets.advance.finish? with
  | some (batch, _) => batch.map Pending.request
  | none => []

/-- The bench after their worker took them. -/
def takeBatch (hw : Hardware) : Hardware :=
  match hw.sets.advance.finish? with
  | some (_, sets) => { hw with sets }
  | none => hw

/-- The values of sets that are accepted when the sets are answered in turn. -/
def acceptedInTurn (hw : Hardware) : List SetRequest → List PropertyValue
  | [] => []
  | request :: rest =>
    (setForClient request.value).accepts request.value hw ++
      acceptedInTurn (serveSet request hw).2 rest

/-- The event of a generator that the next step of the timers fires, if it is that. -/
def generated? (hw : Hardware) : Option PropertyValue :=
  if hw.sampler.timer.round.isEmpty && !hw.hub.timer.round.isEmpty then
    (hw.hub.fire hw.clock.read.1).1
  else none

/-- The values that are accepted in an operation, in turn, as far as they come from outside: a refresh
brings none, and what services write by themselves is left out. -/
def acceptedBy (hw : Hardware) : Operation → List PropertyValue
  | .set v => (setValue v).accepts v hw
  | .takeFromBus v => hw.store.accepts v
  | .restore key => (hw.saved.get? key).toList.flatMap fun v => (Hardware.restore key).accepts v hw
  | .workSets => hw.takeBatch.acceptedInTurn hw.batch
  | .wake => hw.generated?.toList.flatMap hw.store.accepts
  | _ => []

/-- What happens to a bench: operations, and the pieces of the one that answers sets. -/
inductive Act where
  /-- An operation. -/
  | operation (o : Operation)
  /-- The worker takes the sets. -/
  | take
  /-- It answers one of them. -/
  | serve (request : SetRequest)

/-- The bench after something happened. -/
def afterAct (hw : Hardware) : Act → Hardware
  | .operation o => hw.after o
  | .take => hw.takeBatch
  | .serve request => (serveSet request hw).2

/-- The bench after several things happened. -/
def runActs (hw : Hardware) (acts : List Act) : Hardware := acts.foldl afterAct hw

/-- The values that are accepted in something that happens. -/
def accepted (hw : Hardware) : Act → List PropertyValue
  | .operation (.command tokens) =>
    (Command.operation? hw.clock.now tokens).toList.flatMap hw.acceptedBy
  | .operation o => hw.acceptedBy o
  | .take => []
  | .serve request => (setForClient request.value).accepts request.value hw

/-- The values that are accepted in what happens, in turn. -/
def acceptedAlong (hw : Hardware) : List Act → List PropertyValue
  | [] => []
  | act :: rest => hw.accepted act ++ acceptedAlong (hw.afterAct act) rest

/-- The payload of the value that was last accepted as climate power, or else of the one that it had
at the start, if there is one. -/
def lastPower? (start : Hardware) (acts : List Act) : Option Payload :=
  (start.store.lastPower? (start.acceptedAlong acts)).or start.store.power?

/-! ## Failing and accepting -/

/-- A value whose operation fails is not accepted. -/
theorem accepts_of_failed {op : Op Unit} {e : Failure} (h : op hw = .error (.failed e) mid) :
    op.accepts v hw = [] := by
  unfold Op.accepts
  rw [h]

/-- A value whose operation does not fail is accepted. -/
theorem accepts_of_not_fails {op : Op Unit} (h : ¬ Fails op hw) : op.accepts v hw = [v] := by
  unfold Op.accepts
  split
  · next e mid hfailed => exact absurd (fails_of_failed hfailed) h
  · rfl

/-- Operations that end alike accept alike. -/
theorem accepts_congr {op op' : Op Unit} (h : op hw = op' hw') :
    op.accepts v hw = op'.accepts v hw' := by
  unfold Op.accepts
  rw [h]

/-- Nothing but the value itself is accepted. -/
theorem prop_of_accepts {op : Op Unit} {w : PropertyValue} (h : w ∈ op.accepts v hw) : w = v := by
  unfold Op.accepts at h
  split at h
  · cases h
  · exact List.mem_singleton.mp h

/-! ## Single writes -/

/-- An operation that comes down to a write with some time. -/
theorem powerAfter_of_write {op : Op Unit} {time : Int64} {activity : String}
    (hc : hw.store.Coherent)
    (hop : op hw = (write { v with timestamp := time } false).during activity mid)
    (hmid : mid.store.records = hw.store.records) :
    PowerAfter (op.accepts v hw) hw.store (op.final hw).store := by
  have hsame : Same hw.store mid.store := .of_records hmid
  rw [final_congr hop, final_during]
  cases hwrite : mid.store.write { v with timestamp := time } false with
  | error e =>
    have hfailed := hop.trans (during_of_failed (bind_of_error (commit_of_error hwrite) _) activity)
    rw [accepts_of_failed hfailed, final_write_of_error hwrite]
    exact .of_same hsame
  | ok r =>
    have htaken : ¬ Fails op hw := by
      rw [fails_congr hop, fails_during_iff, ← not_fails_write_iff, hwrite]
      rfl
    obtain ⟨rules, hwritten⟩ := written_of_write (hc.same hsame).keyed hwrite
    rw [accepts_of_not_fails htaken, final_write_of_ok hwrite]
    exact (PowerAfter.of_same hsame).trans (hwritten.powerAfter (hc.same hsame))

/-- A set that no service takes writes its value if it is accepted. -/
theorem powerAfter_setStored (hc : hw.store.Coherent) (v : PropertyValue) :
    PowerAfter ((setStored v).accepts v hw) hw.store ((setStored v).final hw).store := by
  rcases setStored_cases v hw with ⟨config, -, -, hset⟩ | ⟨e, hfailed, -⟩
  · exact powerAfter_of_write hc hset rfl
  · rw [accepts_of_failed hfailed, final_of_error hfailed]
    exact .of_same (.refl _)

/-- Writing back what was put by writes it if it is accepted. -/
theorem powerAfter_restore (hc : hw.store.Coherent) (key : PropertyKey) :
    PowerAfter (hw.acceptedBy (.restore key)) hw.store ((Hardware.restore key).final hw).store := by
  dsimp only [acceptedBy]
  cases hsaved : hw.saved.get? key with
  | none =>
    rw [final_of_error (restore_of_none hsaved)]
    exact .of_same (.refl _)
  | some v =>
    rw [Option.toList_some, List.flatMap_singleton]
    exact powerAfter_of_write hc (restore_of_some hsaved) rfl

/-- A value from the vehicle that the store does not take leaves the records as they are. -/
theorem records_takeFromBus_of_error {e : Failure}
    (h : Store.write { hw.store with pool := (hw.store.pool.copy v).2 } v false = .error e) :
    ((Hardware.takeFromBus v).final hw).store.records = hw.store.records := by
  have hlook (hw : Hardware) : (get : Op Hardware) hw = .ok hw hw := rfl
  rw [Hardware.takeFromBus, final_bind_ok (copied_ok v hw),
    final_bind_ok (result_of_failed (commit_of_error h)), final_bind_ok (hlook _)]
  cases hw.errorListener with
  | none => rfl
  | some listener =>
    dsimp only
    rw [final_tell]

/-- A value from the vehicle is written if the store takes it. -/
theorem powerAfter_takeFromBus (hw : Hardware) (hc : hw.store.Coherent) (v : PropertyValue) :
    PowerAfter (hw.store.accepts v) hw.store ((Hardware.takeFromBus v).final hw).store := by
  let pool := (hw.store.pool.copy v).2
  have hsame : Same hw.store (hw.store.withPool pool) := .of_records rfl
  rw [← accepts_withPool hw.store pool v]
  cases hwrite : (hw.store.withPool pool).write v false with
  | error e =>
    have hnone : (hw.store.withPool pool).accepts v = [] := by
      unfold Store.accepts
      rw [hwrite]
      rfl
    rw [hnone]
    exact .of_same (.of_records (records_takeFromBus_of_error hwrite))
  | ok r =>
    have hone : (hw.store.withPool pool).accepts v = [v] := by
      unfold Store.accepts
      rw [hwrite]
      rfl
    obtain ⟨rules, hwritten⟩ := written_of_write (hc.same hsame).keyed hwrite
    rw [hone, final_takeFromBus_of_ok hwrite]
    exact (PowerAfter.of_same hsame).trans (hwritten.powerAfter (hc.same hsame))

/-! ## Sets -/

/-- What is known of a bench that comes about, as far as it bears on climate power. -/
structure Orderly (hw : Hardware) : Prop where
  /-- Values lie where they belong. -/
  coherent : hw.store.Coherent
  /-- User management has prepared responses for their own properties. -/
  own : hw.userHal.PreparesOwn

/-- Benches that come about are orderly. -/
theorem Reachable.orderly (h : Reachable hw) : hw.Orderly := ⟨h.coherent, h.preparesOwn⟩

/-- An orderly bench stays so through every operation. -/
theorem Orderly.after (h : hw.Orderly) (o : Operation) : (hw.after o).Orderly where
  coherent := (reaches_after hw o).coherent h.coherent
  own := stepwise_preparesOwn.closed.across_after hw o h.own

/-- An answered set leaves the bench that the set of the client leaves. -/
theorem final_serveSet (request : SetRequest) (hw : Hardware) :
    (serveSet request hw).2 = (setForClient request.value).final hw := by
  have hserve : serveSet request hw = _ := Worker.sets.run_serve hw request
  rw [hserve]
  exact snd_attempt _ hw

/-- An orderly bench stays so when a set of a batch is answered. -/
theorem Orderly.serve (h : hw.Orderly) (request : SetRequest) : (serveSet request hw).2.Orderly := by
  have hreaches := closed_reaches.follows_of_made
    (closed_reaches.access.made_setForClient request.value) hw
  have hown := stepwise_preparesOwn.closed.follows_of_made
    (stepwise_preparesOwn.closed.access.made_setForClient request.value) hw
  rw [final_serveSet]
  exact ⟨hreaches.coherent h.coherent, hown h.own⟩

/-- An orderly bench stays so when its worker takes sets. -/
theorem Orderly.takeBatch (h : hw.Orderly) : hw.takeBatch.Orderly := by
  unfold Hardware.takeBatch
  split
  · exact ⟨h.coherent, h.own⟩
  · exact h

/-- No service answers a set of climate power. -/
theorem setValue_of_power (h : v.prop = PropertyId.hvacPowerOn) : setValue v = setStored v := by
  have hnone : serviceSet v = pure none := by
    unfold serviceSet
    rw [h]
    rfl
  rw [setValue, hnone]
  rfl

/-- No set of another property changes climate power. -/
theorem power_not_mem_footprint {prop : Int32} (h : prop ≠ PropertyId.hvacPowerOn) :
    PropertyId.hvacPowerOn ∉ PropertyId.footprint prop := by
  unfold PropertyId.footprint
  split
  · decide
  split
  · decide
  split
  · decide
  · exact fun hmem => h (List.mem_singleton.mp hmem).symm

/-- Climate power after a set of any property. -/
theorem powerAfter_setValue (h : hw.Orderly) (v : PropertyValue) :
    PowerAfter ((setValue v).accepts v hw) hw.store ((setValue v).final hw).store := by
  by_cases hprop : v.prop = PropertyId.hvacPowerOn
  · rw [setValue_of_power hprop]
    exact powerAfter_setStored h.coherent v
  · have hspares := spares_setValue h.coherent.keyed h.own v
    have hkept := PowerAfter.of_sameBut hspares.others fun _ => power_not_mem_footprint hprop
    exact hkept.of_ne fun w hw => prop_of_accepts hw ▸ hprop

/-- The access check lets a request pass or denies it. -/
theorem checkAccess_cases (prop : Int32) (allowed : Access → Bool) (hw : Hardware) :
    checkAccess prop allowed hw = .ok () hw ∨
      ∃ e, checkAccess prop allowed hw = .error (.failed e) hw ∧ e.code = .accessDenied := by
  have hlook : (get : Op Hardware) hw = .ok hw hw := rfl
  rw [checkAccess, bind_of_ok hlook]
  cases hw.store.config prop with
  | error e => exact .inl rfl
  | ok config =>
    dsimp only
    split
    · exact .inr ⟨_, rfl, rfl⟩
    · exact .inl rfl

/-- Climate power after a set of a batch. -/
theorem powerAfter_serveSet (h : hw.Orderly) (request : SetRequest) :
    PowerAfter ((setForClient request.value).accepts request.value hw) hw.store
      (serveSet request hw).2.store := by
  rw [final_serveSet]
  rcases checkAccess_cases request.value.prop Access.canWrite hw with hpassed | ⟨e, hdenied, -⟩
  · have hset : setForClient request.value hw = setValue request.value hw := bind_of_ok hpassed _
    rw [accepts_congr hset, final_congr hset]
    exact powerAfter_setValue h request.value
  · have hfailed : setForClient request.value hw = .error (.failed e) hw := bind_of_error hdenied _
    rw [accepts_of_failed hfailed, final_of_error hfailed]
    exact .of_same (.refl _)

/-! ## Batches -/

/-- Resolving a batch leaves the bench that answering its sets in turn leaves. -/
theorem snd_resolve (requests : List (Pending Nat SetRequest)) (hw : Hardware) :
    ((Pending.resolve (fun request => return some (← serveSet request)) requests :
        StateM Hardware (List (Delivery Nat SetResult))) hw).2 =
      hw.runActs ((requests.map Pending.request).map .serve) := by
  let answer (p : Pending Nat SetRequest) : StateM Hardware (Nat × Option SetResult) :=
    return (p.caller, some (← serveSet p.request))
  have hanswers (requests : List (Pending Nat SetRequest)) (hw : Hardware) :
      (requests.mapM answer hw).2 = hw.runActs ((requests.map Pending.request).map .serve) := by
    induction requests generalizing hw with
    | nil => rfl
    | cons p rest ih =>
      rw [List.mapM_cons]
      exact ih (serveSet p.request hw).2
  exact hanswers requests hw

/-- The operation of the worker is made of its pieces. -/
theorem after_workSets (hw : Hardware) :
    hw.after .workSets = hw.runActs (.take :: hw.batch.map .serve) := by
  have hafter : hw.after .workSets = (workSets hw).2 := rfl
  have hacts : hw.runActs (.take :: hw.batch.map .serve) =
      hw.takeBatch.runActs (hw.batch.map .serve) := rfl
  rw [hafter, hacts]
  unfold takeBatch batch
  cases h : hw.sets.advance.finish? with
  | none =>
    rw [workSets_of_none h]
    rfl
  | some r =>
    rw [workSets_of_some h]
    exact snd_resolve r.1 _

/-- The store looks the same when the worker takes sets. -/
theorem same_takeBatch (hw : Hardware) : Same hw.store hw.takeBatch.store := by
  unfold takeBatch
  split <;> exact .of_records rfl

/-- Climate power after the sets of a batch that are answered in turn. -/
theorem powerAfter_inTurn (h : hw.Orderly) (requests : List SetRequest) :
    PowerAfter (hw.acceptedInTurn requests) hw.store (hw.runActs (requests.map .serve)).store := by
  induction requests generalizing hw with
  | nil => exact .of_same (.refl _)
  | cons request rest ih => exact (powerAfter_serveSet h request).append (ih (h.serve request))

/-- Climate power after a whole batch. -/
theorem powerAfter_workSets (h : hw.Orderly) :
    PowerAfter (hw.acceptedBy .workSets) hw.store (hw.after .workSets).store := by
  rw [after_workSets]
  exact (PowerAfter.of_same hw.same_takeBatch).trans (powerAfter_inTurn h.takeBatch hw.batch)

end Hardware

end BenchVehicle
