/-!
# The bench clock

Time in nanoseconds, as a sequence of readings that is fixed in advance. Every reading is taken
once, so that two runs over the same sequence see the same times. Waiting shifts the readings that
are still to come.
-/

namespace BenchVehicle

/-- A clock and how often it was read. -/
structure Clock where
  /-- What each reading shows when nobody waits. -/
  reading : Nat → Int64
  /-- The number of readings taken. -/
  reads : Nat := 0
  /-- The nanoseconds spent waiting. -/
  waited : Int64 := 0

namespace Clock

/-- The clock that shows `start` first and one nanosecond more at each reading. -/
def ticking (start : Int64) : Clock := { reading := fun n => start + Int64.ofNat n }

/-- What the next reading shows. -/
def now (c : Clock) : Int64 := c.reading c.reads + c.waited

/-- A reading, and the clock after it. -/
def read (c : Clock) : Int64 × Clock := (c.now, { c with reads := c.reads + 1 })

/-- The clock when the next reading shows `time`, or as it is if that is past. -/
def waitUntil (c : Clock) (time : Int64) : Clock :=
  if c.now < time then { c with waited := c.waited + (time - c.now) } else c

end Clock

end BenchVehicle
