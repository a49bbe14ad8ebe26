import BenchVehicle.Clock
import BenchVehicle.SortedMap
import BenchVehicle.Timer.Deadline

/-!
# The recurrent timer

Actions that recur at intervals. Each registration gets a number of its own, its generation, and
sets one deadline; a deadline is live while its registration is the current one of its handle.
Registering again or unregistering leaves a stale deadline behind, which is passed over when its
time comes and swept out when stale deadlines prevail.

Generations are counted without end. A counter of 64 bits does the same for the first 2 ^ 64
registrations, which no timer lives to see.

The timer works in rounds. `collect` takes the deadlines that are due and sets the next ones;
`fire` then answers with the collected actions one by one, each only if it is still live. Between
two of these steps anybody may register, unregister or stop, the running action included.
-/

namespace BenchVehicle

/-- What is known of a recurrent action. -/
structure Registration (α : Type) where
  /-- What to do. -/
  action : α
  /-- The nanoseconds between two deadlines. -/
  interval : Int64
  /-- The number of the registration, its generation. -/
  generation : Nat
  deriving DecidableEq

/-- Recurrent actions and their deadlines. -/
structure Timer (α : Type) where
  /-- The current registration of each handle. -/
  callbacks : SortedMap Nat (Registration α) := .empty
  /-- The deadlines, the earliest first. -/
  queue : List Deadline := []
  /-- The generation of the next registration. It never runs out, as one of 64 bits would after
  2 ^ 64 registrations. -/
  nextGeneration : Nat := 0
  /-- The collected deadlines whose actions are still to be fired. -/
  round : List Deadline := []
  /-- Whether the timer was stopped. -/
  stopped : Bool := false
  /-- Whether an action went down and took the timer's rounds with it. -/
  crashed : Bool := false

namespace Timer

variable {α : Type}

/-- Whether a deadline was set by the current registration of its handle. -/
def isLive (t : Timer α) (d : Deadline) : Bool :=
  (t.callbacks.get? d.handle).any fun r => r.generation = d.generation

/-- The number of registered handles. -/
def count (t : Timer α) : Nat := t.callbacks.size

/-- Sweeps out stale deadlines once they prevail. -/
def sweep (t : Timer α) : Timer α :=
  if t.queue.length ≤ 2 * t.count + 16 then t else { t with queue := t.queue.filter t.isLive }

/-- Registers an action at `now` in place of what its handle had. Answers whether the interval is
one an action can recur at and the timer still runs. -/
def register (t : Timer α) (now : Int64) (handle : Nat) (interval : Int64) (action : α) :
    Bool × Timer α :=
  if !Nanoseconds.schedulable interval || t.stopped then (false, t)
  else
    let generation := t.nextGeneration
    let deadline : Deadline := { due := Nanoseconds.add now interval, generation, handle }
    (true, sweep { t with
      callbacks := t.callbacks.insert handle { action, interval, generation }
      queue := deadline.enqueue t.queue
      nextGeneration := generation + 1 })

/-- Unregisters a handle. -/
def unregister (t : Timer α) (handle : Nat) : Timer α :=
  if t.callbacks.contains handle then sweep { t with callbacks := t.callbacks.erase handle } else t

/-- Stops the timer for good. -/
def stop (t : Timer α) : Timer α := { t with callbacks := .empty, queue := [], stopped := true }

/-- Takes the first deadline if it is due at `now`. A live one is collected, and the next deadline
of its registration set. -/
def takeDue? (t : Timer α) (now : Int64) : Option (Timer α) :=
  match t.queue with
  | [] => none
  | d :: rest =>
    if now < d.due then none
    else
      let t := { t with queue := rest }
      match t.callbacks.get? d.handle with
      | none => some t
      | some r =>
        if r.generation ≠ d.generation then some t
        else some { t with
          queue := (d.following r.interval now).enqueue rest
          round := t.round ++ [d] }

/-- Takes due deadlines until there are none, at most `fuel` times. -/
def takeAllDue (now : Int64) : Nat → Timer α → Timer α
  | 0, t => t
  | fuel + 1, t => match t.takeDue? now with
    | none => t
    | some t => takeAllDue now fuel t

/-- Collects the deadlines that are due at `now`. Each deadline is taken once at most, because
the one set in its place is still to come. -/
def collect (t : Timer α) (now : Int64) : Timer α := takeAllDue now t.queue.length t

/-- Takes the next deadline of the round, with its action if that is to be fired. -/
def fire (t : Timer α) : Option (Deadline × Registration α) × Timer α :=
  match t.round with
  | [] => (none, t)
  | d :: rest =>
    let t := { t with round := rest }
    (if t.stopped then none else
      (t.callbacks.get? d.handle).bind fun r =>
        if r.generation = d.generation then some (d, r) else none, t)

/-- Passes over the stale deadlines before the first live one. -/
def skipStale (t : Timer α) : Timer α := { t with queue := t.queue.dropWhile fun d => !t.isLive d }

/-- The timer after an action went down. -/
def crash (t : Timer α) : Timer α := { t with round := [], crashed := true }

/-- The earliest live deadline, if the timer will ever meet it. -/
def nextDue? (t : Timer α) : Option Int64 :=
  if t.stopped || t.crashed then none else (t.queue.find? t.isLive).map Deadline.due

/-- Waits for the earliest live deadline and collects what is due then. -/
def awaitRound (t : Timer α) (clock : Clock) : Option (Timer α × Clock) :=
  t.nextDue?.map fun due =>
    let (now, clock) := (clock.waitUntil due).read
    (t.skipStale.collect now, clock)

end Timer

end BenchVehicle
