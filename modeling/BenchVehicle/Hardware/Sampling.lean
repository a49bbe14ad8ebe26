import BenchVehicle.Hardware.Access

/-!
# Sampling, generators and snapshots

What happens to values apart from gets and sets: their periodic refreshment, which writes a value
again with a new time, the events of generators, and values that are put by and written back.

Time passes only in `wake`, which takes the next step of the two timers: an action of a round that
is under way, or else the wait for the earliest deadline.
-/

namespace BenchVehicle

namespace Sampler

/-- Stops what is done for an instance. -/
def drop (s : Sampler) (key : PropertyKey) : Sampler :=
  match s.actions.get? key with
  | some handle => { s with timer := s.timer.unregister handle, actions := s.actions.erase key }
  | none => s

/-- Starts to sample an instance at `now` in place of what was done for it. Answers whether the
timer took it. -/
def start (s : Sampler) (now : Int64) (key : PropertyKey) (interval : Int64) : Bool × Sampler :=
  let s := s.drop key
  let (accepted, timer) := s.timer.register now s.nextHandle interval key
  if accepted then
    (true, { timer
             actions := s.actions.insert key s.nextHandle
             nextHandle := s.nextHandle + 1 })
  else (false, { s with timer })

/-- Stops for good. -/
def stop (s : Sampler) : Sampler := { s with actions := .empty, timer := s.timer.stop }

/-- What a sample rate asks for. -/
inductive Rate where
  /-- No rate that anything could be sampled at. -/
  | invalid
  /-- No samples. -/
  | off
  /-- A sample every so many nanoseconds. -/
  | every (interval : Int64)
  deriving DecidableEq

/-- The largest interval that a rate may ask for: the longest one of the timer, rounded to the next
64-bit binary number. -/
def intervalLimit : Double := .ofInt Nanoseconds.longestInterval.toInt

/-- Reads a sample rate in hertz. The interval is computed in the 64-bit format and cut to whole
nanoseconds. -/
def Rate.ofHertz (rate : Single) : Rate :=
  if !rate.isFinite || rate.below .zero then .invalid
  else if rate.same .zero then .off
  else
    let interval : Double := (Binary.ofInt 1000000000 : Double).div (rate.convert .double)
    if (Binary.ofInt 1 : Double).atMost interval && interval.atMost intervalLimit then
      .every (Int64.ofInt interval.wholePart)
    else .invalid

end Sampler

namespace Hardware

/-- Sets the rate at which an instance is sampled. -/
def setRate (key : PropertyKey) (rate : Single) : StateM Hardware StatusCode := modifyGet fun hw =>
  match Sampler.Rate.ofHertz rate with
  | .invalid => (.invalidArg, hw)
  | .off => (.ok, { hw with sampler := hw.sampler.drop key })
  | .every interval =>
    let (now, clock) := hw.clock.read
    let (accepted, sampler) := hw.sampler.start now key interval
    (if accepted then .ok else .tryAgain, { hw with sampler, clock })

/-- Writes the value of an instance again with a new time. It is removed first, so that writing it
counts as a change. What cannot be read is left alone. -/
def refresh (key : PropertyKey) : Op Unit := do
  match ← (getValue (.ofKey key.prop key.area)).result with
  | .error _ => pure ()
  | .ok v =>
    let time ← now
    let v := { v with timestamp := time }
    removeStored v
    match ← (commit v false).result with
    | .ok (some change) => announce change
    | _ => pure ()

/-- Starts a generator. Answers whether it runs. -/
def startGenerator (id : Int32) (generator : Generator) : StateM Hardware Bool := modifyGet fun hw =>
  let (now, clock) := hw.clock.read
  let (accepted, hub) := hw.hub.register now id generator
  (accepted, { hw with hub, clock })

/-- Stops a generator. Answers whether there was one. -/
def stopGenerator (id : Int32) : StateM Hardware Bool := modifyGet fun hw =>
  let (found, hub) := hw.hub.unregister id
  (found, { hw with hub })

/-- Puts the stored value of an instance by. -/
def save (key : PropertyKey) : Op Unit := do
  let v ← Op.during "failed to save current property value" (readStored (.ofKey key.prop key.area))
  modify fun hw => { hw with saved := hw.saved.insert key v }

/-- Takes the value that was put by for an instance. -/
def takeSaved (key : PropertyKey) : Op PropertyValue := fun hw =>
  match hw.saved.get? key with
  | some v => .ok v { hw with saved := hw.saved.erase key }
  | none => .error (.failed ⟨.nothingSaved key.prop key.area, []⟩) hw

/-- Writes the value that was put by for an instance back, once. -/
def restore (key : PropertyKey) : Op Unit := do
  let v ← takeSaved key
  let time ← now
  Op.during "failed to restore property value" (write { v with timestamp := time } false)

/-- Stops the workers, sampling and the generators for good. -/
def stop (hw : Hardware) : Hardware :=
  { hw with
    gets := hw.gets.stop
    sets := hw.sets.stop
    sampler := hw.sampler.stop
    hub := hw.hub.stop }

/-! ## The passing of time -/

/-- Fires the next sampling action of the round. -/
def fireSampler (hw : Hardware) : Hardware :=
  let (fired, timer) := hw.sampler.timer.fire
  let hw := { hw with sampler := { hw.sampler with timer } }
  match fired with
  | none => hw
  | some (_, registration) =>
    match refresh registration.action hw with
    | .error .crashed hw =>
      { hw with sampler := { hw.sampler with timer := hw.sampler.timer.crash } }
    | .ok _ hw | .error _ hw => hw

/-- Fires the next generator of the round. -/
def fireGenerator (hw : Hardware) : Hardware :=
  let (now, clock) := hw.clock.read
  let (event, hub) := hw.hub.fire now
  let hw := { hw with hub, clock }
  match event with
  | none => hw
  | some v =>
    match takeFromBus v hw with
    | .error .crashed hw => { hw with hub := { hw.hub with timer := hw.hub.timer.crash } }
    | .ok _ hw | .error _ hw => hw

/-- Starts the next round of sampling. -/
def awaitSampler (hw : Hardware) : Hardware :=
  match hw.sampler.timer.awaitRound hw.clock with
  | some (timer, clock) => { hw with sampler := { hw.sampler with timer }, clock }
  | none => hw

/-- Starts the next round of the generators. -/
def awaitGenerators (hw : Hardware) : Hardware :=
  match hw.hub.timer.awaitRound hw.clock with
  | some (timer, clock) => { hw with hub := { hw.hub with timer }, clock }
  | none => hw

/-- The earliest time at which anything happens by itself. -/
def nextDue? (hw : Hardware) : Option Int64 :=
  match hw.sampler.timer.nextDue?, hw.hub.timer.nextDue? with
  | some s, some g => some (min s g)
  | some s, none => some s
  | none, g => g

/-- The next step of the timers. -/
def wake (hw : Hardware) : Hardware :=
  if !hw.sampler.timer.round.isEmpty then hw.fireSampler
  else if !hw.hub.timer.round.isEmpty then hw.fireGenerator
  else match hw.sampler.timer.nextDue?, hw.hub.timer.nextDue? with
    | some s, some g => if g < s then hw.awaitGenerators else hw.awaitSampler
    | some _, none => hw.awaitSampler
    | none, _ => hw.awaitGenerators

/-- Whether a round of either timer is under way. -/
def inRound (hw : Hardware) : Bool :=
  !hw.sampler.timer.round.isEmpty || !hw.hub.timer.round.isEmpty

/-- Takes steps of the timers until they have nothing to do before a time, at most `fuel` of
them. -/
def wakeUntil (time : Int64) : Nat → Hardware → Hardware
  | 0, hw => hw
  | fuel + 1, hw =>
    if hw.inRound || hw.nextDue?.any fun due => due ≤ time then wakeUntil time fuel hw.wake else hw

/-- Takes steps of the timers until listeners were told of `goal` events in all, at most `fuel` of
them. Gives nothing if that does not happen. -/
def wakeForEvents (goal : Nat) : Nat → Hardware → Option Hardware
  | 0, hw => if goal ≤ hw.events.length then some hw else none
  | fuel + 1, hw =>
    if goal ≤ hw.events.length then some hw
    else if hw.inRound || hw.nextDue?.isSome then wakeForEvents goal fuel hw.wake
    else none

end Hardware

end BenchVehicle
