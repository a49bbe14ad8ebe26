/-!
# Deadlines

When a recurrent action is due. A deadline that was met late is followed by the next one of its
phase that is still to come, so missed periods are skipped. Times stop at the largest 64-bit
integer.
-/

namespace BenchVehicle

namespace Nanoseconds

/-- The largest time. -/
def last : Int := Int64.maxValue.toInt

/-- The time nearest to an integer. -/
def clamp (t : Int) : Int64 := Int64.ofInt (max Int64.minValue.toInt (min last t))

/-- The sum of two times, clamped. -/
def add (s t : Int64) : Int64 := clamp (s.toInt + t.toInt)

/-- The difference of two times, clamped. -/
def sub (s t : Int64) : Int64 := clamp (s.toInt - t.toInt)

/-- The product of a time and a count, clamped. -/
def mul (s t : Int64) : Int64 := clamp (s.toInt * t.toInt)

/-- The longest period of a recurrent action. -/
def longestInterval : Int64 := Int64.maxValue / 4

/-- Whether an action can recur at an interval. -/
def schedulable (interval : Int64) : Bool := 1 ≤ interval && interval ≤ longestInterval

end Nanoseconds

/-- The next time an action is due. -/
structure Deadline where
  /-- The time. -/
  due : Int64
  /-- The number of the registration that set it. -/
  generation : Nat
  /-- The action. -/
  handle : Nat
  deriving DecidableEq, Inhabited

namespace Deadline

/-- Deadlines come by time, and those of one time in the order of their registrations. -/
def precedes (d e : Deadline) : Bool :=
  d.due < e.due
    || d.due = e.due && (d.generation < e.generation
      || d.generation = e.generation && d.handle < e.handle)

/-- Deadlines with one more put before the first that it precedes. -/
def enqueue (d : Deadline) : List Deadline → List Deadline
  | [] => [d]
  | e :: rest => if d.precedes e then d :: e :: rest else e :: enqueue d rest

/-- One more deadline is put in and nothing else changes but the order. -/
theorem enqueue_perm (d : Deadline) (ds : List Deadline) : (d.enqueue ds).Perm (d :: ds) := by
  induction ds with
  | nil => exact .refl _
  | cons e rest ih =>
    unfold enqueue
    split
    · exact .refl _
    · exact (ih.cons e).trans (.swap d e rest)

/-- A deadline that is put in adds one. -/
@[simp] theorem length_enqueue (d : Deadline) (ds : List Deadline) :
    (d.enqueue ds).length = ds.length + 1 := by simpa using (d.enqueue_perm ds).length_eq

/-- A deadline that is put in is there, and so are the others. -/
@[simp] theorem mem_enqueue (d e : Deadline) (ds : List Deadline) :
    e ∈ d.enqueue ds ↔ e = d ∨ e ∈ ds := by simpa using (d.enqueue_perm ds).mem_iff

/-- The deadline after one at `due` that is met at `now`. -/
def next (due interval now : Int64) : Int64 :=
  let following := Nanoseconds.add due interval
  if now < following then following
  else
    let missed := Nanoseconds.sub now due / interval
    Nanoseconds.add due (Nanoseconds.mul (Nanoseconds.add missed 1) interval)

/-- The deadline of the same registration after one that is met at `now`. -/
def following (d : Deadline) (interval now : Int64) : Deadline :=
  { d with due := next d.due interval now }

end Deadline

end BenchVehicle
