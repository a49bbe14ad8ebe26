import BenchVehicle.Property.Value

/-!
# Event generators

Sources of property events. A linear generator steps through a range and starts again at its
lower end; a replay hands out prepared events and then has nothing left.
-/

namespace BenchVehicle

/-- A sawtooth of numbers around a middle. -/
structure LinearGenerator where
  /-- The property of the events. -/
  prop : Int32
  /-- The middle of the range. -/
  middle : Single
  /-- The number of the next event. -/
  current : Single
  /-- Half the width of the range. -/
  dispersion : Single
  /-- The step from one event to the next. -/
  increment : Single
  /-- The nanoseconds between events. -/
  interval : Int64
  deriving Inhabited

namespace LinearGenerator

/-- The event of now, and the generator after it. A step past the upper end of the range goes to
the lower end; a comparison with a NaN counts as being inside. -/
def next (g : LinearGenerator) (now : Int64) : PropertyValue × LinearGenerator :=
  let event : PropertyValue :=
    { prop := g.prop, timestamp := now, payload := { floats := [g.current] } }
  let stepped := g.current.add g.increment
  let past := (g.middle.add g.dispersion).below stepped
  (event, { g with current := if past then g.middle.sub g.dispersion else stepped })

/-- The first `n` events, the `i`-th one at the time `times i`. -/
def events (g : LinearGenerator) (times : Nat → Int64) : Nat → List PropertyValue
  | 0 => []
  | n + 1 =>
    let (event, g') := g.next (times 0)
    event :: g'.events (fun i => times (i + 1)) n

end LinearGenerator

/-- A source of events. -/
inductive Generator where
  /-- A sawtooth. -/
  | linear (g : LinearGenerator)
  /-- Prepared events, handed out at an interval. -/
  | replay (events : List PropertyValue) (interval : Int64)

namespace Generator

/-- The nanoseconds between events. -/
def interval : Generator → Int64
  | linear g => g.interval
  | replay _ interval => interval

/-- The event of now, if there is one, and the generator after it. -/
def next (now : Int64) : Generator → Option PropertyValue × Generator
  | linear g => let (event, g') := g.next now; (some event, linear g')
  | replay [] interval => (none, replay [] interval)
  | replay (event :: rest) interval => (some event, replay rest interval)

end Generator

end BenchVehicle
