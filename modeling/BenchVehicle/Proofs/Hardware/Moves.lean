import BenchVehicle.Proofs.Hardware.Surroundings
import BenchVehicle.Proofs.Timer.Pairing

/-!
# What happens to the surroundings

The ways in which the surroundings of the store change. Every operation on a bench goes through
some of them, one after the other, and of the values put by it touches at most that of one
instance, which can be told from the operation.
-/

namespace BenchVehicle

/-- The ways in which sampling changes. -/
inductive Sampler.Move (s : Sampler) : Sampler → Prop where
  /-- An instance is not sampled any more. -/
  | dropped (key : PropertyKey) : Move s (s.drop key)
  /-- An instance is to be sampled. -/
  | started (now : Int64) (key : PropertyKey) (interval : Int64) :
      Move s (s.start now key interval).2
  /-- Sampling is stopped for good. -/
  | stopped : Move s s.stop
  /-- The timer goes on. -/
  | turned {timer : Timer PropertyKey} (h : Timer.Turned s.timer timer) : Move s { s with timer }

/-- The ways in which the generators change. -/
inductive GeneratorHub.Move (h : GeneratorHub) : GeneratorHub → Prop where
  /-- A generator is dropped. -/
  | dropped (id : Int32) : Move h (h.drop id)
  /-- A generator is to run. -/
  | registered (now : Int64) (id : Int32) (generator : Generator) :
      Move h (h.register now id generator).2
  /-- All generators are stopped for good. -/
  | stopped : Move h h.stop
  /-- The timer goes on. -/
  | turned {timer : Timer Int32} (hturned : Timer.Turned h.timer timer) : Move h { h with timer }
  /-- A generator goes on. -/
  | advanced {id : Int32} {source : Source} (hsource : h.sources.get? id = some source)
      (generator : Generator) :
      Move h { h with sources := h.sources.insert id { source with generator } }

/-- The ways in which the surroundings change. Values are put by and taken of the instances
`named`. -/
inductive Surroundings.Move (named : PropertyKey → Prop) (s : Surroundings) : Surroundings → Prop where
  /-- A value is put by. -/
  | saved {key : PropertyKey} (h : named key) (v : PropertyValue) :
      Move named s { s with saved := s.saved.insert key v }
  /-- A value that was put by is taken. -/
  | taken {key : PropertyKey} (h : named key) : Move named s { s with saved := s.saved.erase key }
  /-- Sampling changes. -/
  | sampler {sampler : Sampler} (h : s.sampler.Move sampler) : Move named s { s with sampler }
  /-- The generators change. -/
  | hub {hub : GeneratorHub} (h : s.hub.Move hub) : Move named s { s with hub }
  /-- Requests for values come or go. -/
  | gets (gets : Pipeline Nat GetRequest) : Move named s { s with gets }
  /-- Requests to set values come or go. -/
  | sets (sets : Pipeline Nat SetRequest) : Move named s { s with sets }

namespace Hardware

open Op

variable {α : Type} {named : PropertyKey → Prop}

/-- That the surroundings of the second bench come from those of the first in some of these ways. -/
def Moves (named : PropertyKey → Prop) (hw hw' : Hardware) : Prop :=
  Relation.ReflTransGen (Surroundings.Move named) hw.surroundings hw'.surroundings

/-- Where nothing happens the surroundings do not change. -/
theorem Moves.refl (hw : Hardware) : Moves named hw hw := Relation.ReflTransGen.refl

/-- Changes of the surroundings follow one another. -/
theorem Moves.trans {hw mid hw' : Hardware} (h : Moves named hw mid) (h' : Moves named mid hw') :
    Moves named hw hw' := Relation.ReflTransGen.trans h h'

/-- The same surroundings come about without a change. -/
theorem Moves.of_eq {hw hw' : Hardware} (h : hw'.surroundings = hw.surroundings) :
    Moves named hw hw' := by
  rw [Moves, h]

/-- One change of the surroundings is a sequence of changes. -/
theorem Moves.of_move {hw hw' : Hardware} (h : hw.surroundings.Move named hw'.surroundings) :
    Moves named hw hw' := .single h

/-- What every way of changing keeps true of the surroundings. -/
theorem Moves.keeps {P : Surroundings → Prop} (hmove : ∀ s s', Surroundings.Move named s s' → P s → P s')
    {hw hw' : Hardware} (h : Moves named hw hw') (hp : P hw.surroundings) : P hw'.surroundings := by
  unfold Moves at h
  generalize hw'.surroundings = s at h
  induction h with
  | refl => exact hp
  | tail _ hlast ih => exact hmove _ _ hlast ih

/-- That the surroundings change in these ways while an operation is performed. -/
abbrev Moving (named : PropertyKey → Prop) (op : Op α) : Prop := op.Follows (Moves named)

/-- A confined operation changes no surroundings. -/
theorem moving_of_confined {op : Op α} (h : op.Confined) : Moving named op := fun hw =>
  .of_eq (h.surroundings hw)

/-- Neither does what is made of access steps. -/
theorem moving_of_made {op : Op α} (h : Made AccessStep op) : Moving named op :=
  moving_of_confined (confined_of_made h)

/-- A result alone changes no surroundings. -/
theorem moving_pure (a : α) : Moving named (pure a : Op α) := fun _ => .refl _

/-- The changes of operations one after the other follow one another. -/
theorem Moving.bind {β : Type} {op : Op α} {next : α → Op β} (hop : Moving named op)
    (hnext : ∀ a, Moving named (next a)) : Moving named (op >>= next) :=
  Follows.andThen Moves.trans hop fun _ a _ _ => hnext a

/-! ## Values put by -/

/-- Putting a value by touches the instance that is put by. -/
theorem moving_save {key : PropertyKey} (h : named key) : Moving named (Hardware.save key) := by
  refine Moving.bind (moving_of_made ((made_readStored _).during _)) fun v => fun hw => ?_
  exact .of_move (.saved h v)

/-- Taking a value that was put by touches its instance. -/
theorem moving_takeSaved {key : PropertyKey} (h : named key) : Moving named (takeSaved key) := by
  intro hw
  unfold Op.final takeSaved
  cases hw.saved.get? key with
  | none => exact .refl hw
  | some v => exact .of_move (.taken h)

/-- Writing back a value that was put by touches its instance. -/
theorem moving_restore {key : PropertyKey} (h : named key) : Moving named (Hardware.restore key) :=
  (moving_takeSaved h).bind fun _ =>
    moving_of_made ((Made.given .now).bind fun _ => (Made.given (.write _ _)).during _)

/-! ## Generators and commands -/

/-- Starting a generator registers it with the hub. -/
theorem moves_startGenerator (id : Int32) (generator : Generator) (hw : Hardware) :
    Moves named hw (Hardware.startGenerator id generator hw).2 :=
  .of_move (.hub (.registered hw.clock.now id generator))

/-- Stopping a generator drops it. -/
theorem moves_stopGenerator (id : Int32) (hw : Hardware) :
    Moves named hw (Hardware.stopGenerator id hw).2 := .of_move (.hub (.dropped id))

/-- What a command performs changes the surroundings in the listed ways. -/
theorem moving_of_performed {op : Op α} (h : Command.Performed named op) : Moving named op := by
  cases h with
  | look => exact fun hw => .refl hw
  | getValue request => exact moving_of_made (made_getValue request)
  | setValue v => exact moving_of_made (made_setValue v)
  | takeFromBus v => exact moving_of_confined (confined_takeFromBus v)
  | save h => exact moving_save h
  | restore h => exact moving_restore h
  | startGenerator id generator => exact moves_startGenerator id generator
  | stopGenerator id => exact moves_stopGenerator id
  | now => exact moving_of_confined confined_now
  | announce v => exact moving_of_confined (confined_announce v)

/-- Of the values put by a command touches that of the instance it names at most. -/
theorem moving_command (tokens : List String) :
    Moving (fun key => Command.snapshot? tokens = some key) (Command.run tokens) :=
  (Command.made_run tokens).follows Moves.refl Moves.trans fun _ _ h => moving_of_performed h

/-! ## Workers and rates -/

/-- A batch of gets changes none of the listed surroundings. -/
theorem moves_workGets (hw : Hardware) : Moves named hw (Hardware.workGets hw).2 := by
  cases h : hw.gets.advance.finish? with
  | none =>
    rw [workGets_of_none h]
    exact .refl hw
  | some r =>
    obtain ⟨batch, gets⟩ := r
    have hanswer (request : GetRequest) :
        ConfinedState (do return some (← serveGet request)) :=
      (confinedState_serveGet request).bind fun _ => confinedState_pure _
    have htaken : Moves named hw { hw with gets } := .of_move (.gets gets)
    rw [workGets_of_some h]
    exact htaken.trans (.of_eq ((confinedState_resolve hanswer batch).surroundings _))

/-- A batch of sets changes none of the listed surroundings. -/
theorem moves_workSets (hw : Hardware) : Moves named hw (Hardware.workSets hw).2 := by
  cases h : hw.sets.advance.finish? with
  | none =>
    rw [workSets_of_none h]
    exact .refl hw
  | some r =>
    obtain ⟨batch, sets⟩ := r
    have hanswer (request : SetRequest) :
        ConfinedState (do return some (← serveSet request)) :=
      (confinedState_serveSet request).bind fun _ => confinedState_pure _
    have htaken : Moves named hw { hw with sets } := .of_move (.sets sets)
    rw [workSets_of_some h]
    exact htaken.trans (.of_eq ((confinedState_resolve hanswer batch).surroundings _))

/-- A change of a sample rate drops and starts samples. -/
theorem moves_setRate (key : PropertyKey) (rate : Single) (hw : Hardware) :
    Moves named hw (Hardware.setRate key rate hw).2 := by
  simp only [Hardware.setRate, modifyGet, MonadStateOf.modifyGet, StateT.modifyGet]
  cases Sampler.Rate.ofHertz rate with
  | invalid => exact .refl hw
  | off => exact .of_move (.sampler (.dropped key))
  | every interval => exact .of_move (.sampler (.started hw.clock.now key interval))

/-! ## The passing of time -/

/-- A round of samples turns the timer of the sampler. -/
theorem moves_fireSampler (hw : Hardware) : Moves named hw hw.fireSampler := by
  have hturned : Moves named hw { hw with sampler := { hw.sampler with timer := hw.sampler.timer.fire.2 } } :=
    .of_move (.sampler (.turned (Timer.turned_fire _)))
  unfold fireSampler
  dsimp only
  split
  · exact hturned
  · next registration _ =>
    have hrefresh := hturned.trans (moving_of_made (made_refresh registration.action) _)
    split
    · next mid h =>
      have hcrash : Moves named mid
          { mid with sampler := { mid.sampler with timer := mid.sampler.timer.crash } } :=
        .of_move (.sampler (.turned (Timer.turned_crash _)))
      exact (final_of_error h ▸ hrefresh).trans hcrash
    · next mid h => exact final_of_ok h ▸ hrefresh
    · next mid _ h => exact final_of_error h ▸ hrefresh

/-- A firing of the hub turns its timer and drops a generator that is finished. -/
theorem moves_fireHub (hw : Hardware) (now : Int64) (clock : Clock) :
    Moves named hw { hw with hub := (hw.hub.fire now).2, clock } := by
  have hturned : Moves named hw { hw with hub := { hw.hub with timer := hw.hub.timer.fire.2 } } :=
    .of_move (.hub (.turned (Timer.turned_fire _)))
  unfold GeneratorHub.fire
  dsimp only
  split
  · next registration _ =>
    unfold GeneratorHub.eventOf
    split
    · exact hturned
    · next source hsource => exact hturned.trans (.of_move (.hub (.advanced hsource _)))
  · exact hturned

/-- A round of generators turns the timer of the hub and drops what is finished. -/
theorem moves_fireGenerator (hw : Hardware) : Moves named hw hw.fireGenerator := by
  have hfired : Moves named hw
      { hw with hub := (hw.hub.fire hw.clock.read.1).2, clock := hw.clock.read.2 } :=
    moves_fireHub hw hw.clock.read.1 hw.clock.read.2
  unfold fireGenerator
  dsimp only
  split
  · exact hfired
  · next v _ =>
    have harrive := hfired.trans (moving_of_confined (confined_takeFromBus v) _)
    split
    · next mid h =>
      have hcrash : Moves named mid { mid with hub := { mid.hub with timer := mid.hub.timer.crash } } :=
        .of_move (.hub (.turned (Timer.turned_crash _)))
      exact (final_of_error h ▸ harrive).trans hcrash
    · next mid h => exact final_of_ok h ▸ harrive
    · next mid _ h => exact final_of_error h ▸ harrive

/-- Waiting for a sample turns the timer of the sampler. -/
theorem moves_awaitSampler (hw : Hardware) : Moves named hw hw.awaitSampler := by
  unfold awaitSampler
  split
  · next h => exact .of_move (.sampler (.turned (Timer.turned_awaitRound h)))
  · exact .refl hw

/-- Waiting for generators turns the timer of the hub. -/
theorem moves_awaitGenerators (hw : Hardware) : Moves named hw hw.awaitGenerators := by
  unfold awaitGenerators
  split
  · next h => exact .of_move (.hub (.turned (Timer.turned_awaitRound h)))
  · exact .refl hw

/-- What comes due changes the surroundings in the listed ways. -/
theorem moves_wake (hw : Hardware) : Moves named hw hw.wake := by
  unfold Hardware.wake
  split
  · exact moves_fireSampler hw
  split
  · exact moves_fireGenerator hw
  split
  · split
    · exact moves_awaitGenerators hw
    · exact moves_awaitSampler hw
  · exact moves_awaitSampler hw
  · exact moves_awaitGenerators hw

/-- A stop stops sampling and the generators. -/
theorem moves_stop (hw : Hardware) : Moves named hw hw.stop := by
  have hgets : Moves named hw { hw with gets := hw.gets.stop } := .of_move (.gets _)
  have hsets : Moves named hw { hw with gets := hw.gets.stop, sets := hw.sets.stop } :=
    hgets.trans (.of_move (.sets _))
  have hsampler : Moves named hw
      { hw with gets := hw.gets.stop, sets := hw.sets.stop, sampler := hw.sampler.stop } :=
    hsets.trans (.of_move (.sampler .stopped))
  exact hsampler.trans (.of_move (.hub .stopped))

/-! ## Histories -/

/-- The instance whose value an operation puts by or writes back, if it does either. -/
def Operation.snapshot? : Operation → Option PropertyKey
  | .save key | .restore key => some key
  | .command tokens => Command.snapshot? tokens
  | _ => none

/-- Every operation changes the surroundings in the listed ways, and of the values put by it touches
the one it names at most. -/
theorem moving_perform (o : Operation) :
    Moving (fun key => o.snapshot? = some key) (perform o) := by
  cases o with
  | get request => exact (moving_of_made (made_getValue request)).bind fun _ => moving_pure _
  | set v => exact (moving_of_made (made_setValue v)).bind fun _ => moving_pure _
  | takeFromBus v =>
    exact (moving_of_confined (confined_takeFromBus v)).bind fun _ => moving_pure _
  | submitGets caller requests => exact fun hw => .of_move (.gets _)
  | submitSets caller requests => exact fun hw => .of_move (.sets _)
  | workGets => exact moves_workGets
  | workSets => exact moves_workSets
  | setRate key rate => exact moves_setRate key rate
  | refresh key => exact (moving_of_made (made_refresh key)).bind fun _ => moving_pure _
  | save key =>
    have hnamed : (Operation.save key).snapshot? = some key := rfl
    exact Moving.bind (moving_save hnamed) fun _ => moving_pure _
  | restore key =>
    have hnamed : (Operation.restore key).snapshot? = some key := rfl
    exact Moving.bind (moving_restore hnamed) fun _ => moving_pure _
  | startGenerator id generator => exact moves_startGenerator id generator
  | stopGenerator id => exact moves_stopGenerator id
  | command tokens => exact (moving_command tokens).bind fun _ => moving_pure _
  | listen listener => exact fun hw => .of_eq rfl
  | listenForErrors listener => exact fun hw => .of_eq rfl
  | wake => exact moves_wake
  | stop => exact moves_stop

/-- Every operation changes the surroundings in these ways, however it ends. -/
theorem moves_after (hw : Hardware) (o : Operation) :
    Moves (fun key => o.snapshot? = some key) hw (hw.after o) := by
  rw [after_eq]
  exact moving_perform o hw

end Hardware

end BenchVehicle
