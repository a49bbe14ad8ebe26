import BenchVehicle.Generator.Basic
import BenchVehicle.Timer.Basic

/-!
# The generator hub

Event generators that a timer drives, each under an id of its own. At every deadline the generator
of an id hands out its next event. Each registration gets a new timer handle, so a generator and
its deadline come and go together.
-/

namespace BenchVehicle

/-- A generator that is driven. -/
structure Source where
  /-- Its handle at the timer. -/
  handle : Nat
  /-- The generator, as it is after the events so far. -/
  generator : Generator

/-- Generators and the timer that drives them. -/
structure GeneratorHub where
  /-- The timer; its actions are the ids of generators. -/
  timer : Timer Int32 := {}
  /-- The generators. -/
  sources : SortedMap Int32 Source := .empty
  /-- The handle of the next generator. -/
  nextHandle : Nat := 0

namespace GeneratorHub

/-- The number of generators. -/
def count (h : GeneratorHub) : Nat := h.sources.size

/-- Drops the generator of an id. -/
def drop (h : GeneratorHub) (id : Int32) : GeneratorHub :=
  match h.sources.get? id with
  | some source =>
    { h with timer := h.timer.unregister source.handle, sources := h.sources.erase id }
  | none => h

/-- Starts a generator at `now` in place of the one that had its id. Answers whether it runs: an
interval out of range is refused and changes nothing, a stopped hub refuses all. -/
def register (h : GeneratorHub) (now : Int64) (id : Int32) (generator : Generator) :
    Bool × GeneratorHub :=
  if !Nanoseconds.schedulable generator.interval then (false, h)
  else
    let h := h.drop id
    let (accepted, timer) := h.timer.register now h.nextHandle generator.interval id
    if accepted then
      (true, { timer
               sources := h.sources.insert id { handle := h.nextHandle, generator }
               nextHandle := h.nextHandle + 1 })
    else (false, { h with timer })

/-- Drops the generator of an id. Answers whether there was one. -/
def unregister (h : GeneratorHub) (id : Int32) : Bool × GeneratorHub :=
  (h.sources.contains id, h.drop id)

/-- Stops the hub for good. -/
def stop (h : GeneratorHub) : GeneratorHub :=
  { h with sources := .empty, timer := h.timer.stop }

/-- The next event of a generator. -/
def eventOf (h : GeneratorHub) (now : Int64) (id : Int32) : Option PropertyValue × GeneratorHub :=
  match h.sources.get? id with
  | none => (none, h)
  | some source =>
    let (event, generator) := source.generator.next now
    (event, { h with sources := h.sources.insert id { source with generator } })

/-- Fires the next action of the timer's round. -/
def fire (h : GeneratorHub) (now : Int64) : Option PropertyValue × GeneratorHub :=
  let (fired, timer) := h.timer.fire
  let h := { h with timer }
  match fired with
  | some (_, registration) => h.eventOf now registration.action
  | none => (none, h)

end GeneratorHub

end BenchVehicle
