/-!
# Queues

A queue that is filled item by item or list by list and emptied at one go, until it is closed.
-/

namespace BenchVehicle

/-- Items in the order of their arrival. -/
structure Queue (α : Type) where
  /-- The items. -/
  items : List α := []
  /-- Whether more items are taken in. -/
  active : Bool := true

namespace Queue

variable {α : Type}

/-- Adds items as one block. Answers whether they were taken in. -/
def pushAll (q : Queue α) (items : List α) : Bool × Queue α :=
  if q.active then (true, { q with items := q.items ++ items }) else (false, q)

/-- Adds an item. -/
def push (q : Queue α) (item : α) : Bool × Queue α := q.pushAll [item]

/-- Takes all items. -/
def flush (q : Queue α) : List α × Queue α := (q.items, { q with items := [] })

/-- Closes the queue. What is in it stays. -/
def close (q : Queue α) : Queue α := { q with active := false }

/-- What somebody who waits for items is told: whether the queue is still active, once there are
items or it is not; until then nothing. -/
def wait? (q : Queue α) : Option Bool :=
  if q.active then (if q.items.isEmpty then none else some true) else some false

end Queue

end BenchVehicle
