import BenchVehicle.Request.Queue

/-!
# The request pipeline

Callers submit requests, and one worker resolves them in batches. It waits until there are
requests, takes all of them, answers each in turn, and then hands each caller its results in one
delivery. A request may stay without a result, and a caller without results gets no delivery.

Submitting and stopping may happen between any two steps of the worker. Stopping closes the queue:
a batch that was taken is still resolved, what is in the queue is not.
-/

namespace BenchVehicle

/-- A request on its way. -/
structure Pending (κ ρ : Type) where
  /-- Who gets the result. -/
  caller : κ
  /-- The request. -/
  request : ρ
  deriving DecidableEq

/-- Results for a caller. -/
structure Delivery (κ σ : Type) where
  /-- Who gets them. -/
  caller : κ
  /-- The results, in the order of their requests. -/
  results : List σ
  deriving DecidableEq

namespace Delivery

variable {κ σ : Type} [DecidableEq κ]

/-- Groups with the result of a request put to its caller's. A caller seen for the first time gets
the last group. -/
def add (caller : κ) (result : Option σ) : List (Delivery κ σ) → List (Delivery κ σ)
  | [] => [⟨caller, result.toList⟩]
  | d :: rest =>
    if d.caller = caller then { d with results := d.results ++ result.toList } :: rest
    else d :: add caller result rest

/-- The deliveries for the results of a batch: one for each caller that has any. -/
def group (results : List (κ × Option σ)) : List (Delivery κ σ) :=
  (results.foldl (fun groups r => add r.1 r.2 groups) []).filter fun d => !d.results.isEmpty

end Delivery

namespace Pending

variable {κ ρ σ : Type} [DecidableEq κ]

/-- Resolves a batch with the answer to each request, which may depend on the requests before. -/
def resolve {m : Type → Type} [Monad m] (answer : ρ → m (Option σ)) (batch : List (Pending κ ρ)) :
    m (List (Delivery κ σ)) := do
  let results ← batch.mapM fun p => return (p.caller, ← answer p.request)
  return Delivery.group results

end Pending

/-- How the worker comes to the result of a request. What it works on may change with each
request. -/
structure Handler (τ ρ σ : Type) where
  /-- Handles a request. It gives nothing when it goes down on the request. -/
  handle : ρ → StateM τ (Option σ)
  /-- The result of a request that went down, if such requests have one. -/
  onCrash : Option (ρ → σ) := none

namespace Handler

variable {τ ρ σ : Type}

/-- The result of a request, given what handling it gave. -/
def outcome (h : Handler τ ρ σ) (request : ρ) : Option σ → Option σ
  | some result => some result
  | none => h.onCrash.map fun result => result request

/-- Answers a request. -/
def answer (h : Handler τ ρ σ) (request : ρ) : StateM τ (Option σ) :=
  return h.outcome request (← h.handle request)

end Handler

/-- What the worker is about to do. -/
inductive Phase (κ ρ : Type) where
  /-- Waiting for requests. -/
  | waiting
  /-- Taking the requests. -/
  | awake
  /-- Resolving a batch. -/
  | resolving (batch : List (Pending κ ρ))
  /-- Nothing any more. -/
  | finished

/-- Requests and their worker. -/
structure Pipeline (κ ρ : Type) where
  /-- The requests that were not taken yet. -/
  queue : Queue (Pending κ ρ) := {}
  /-- What the worker is about to do. -/
  phase : Phase κ ρ := .waiting

namespace Pipeline

variable {κ ρ σ : Type}

/-- Submits requests of one caller, to be resolved together. Answers whether they were taken in. -/
def submit (p : Pipeline κ ρ) (caller : κ) (requests : List ρ) : Bool × Pipeline κ ρ :=
  let (accepted, queue) := p.queue.pushAll (requests.map fun request => { caller, request })
  (accepted, { p with queue })

/-- Closes the queue. -/
def stop (p : Pipeline κ ρ) : Pipeline κ ρ := { p with queue := p.queue.close }

/-- The worker stops waiting, if there is a reason. -/
def wake? (p : Pipeline κ ρ) : Option (Pipeline κ ρ) :=
  match p.phase, p.queue.wait? with
  | .waiting, some true => some { p with phase := .awake }
  | .waiting, some false => some { p with phase := .finished }
  | _, _ => none

/-- The worker takes the requests. -/
def take? (p : Pipeline κ ρ) : Option (Pipeline κ ρ) :=
  match p.phase with
  | .awake =>
    let (batch, queue) := p.queue.flush
    some { queue, phase := .resolving batch }
  | _ => none

/-- The worker is done with the batch it has, which is what it has to resolve. -/
def finish? (p : Pipeline κ ρ) : Option (List (Pending κ ρ) × Pipeline κ ρ) :=
  match p.phase with
  | .resolving batch => some (batch, { p with phase := .waiting })
  | _ => none

/-- The worker goes on until it waits for requests again or has taken a batch. -/
def advance (p : Pipeline κ ρ) : Pipeline κ ρ :=
  let p := p.wake?.getD p
  p.take?.getD p

end Pipeline

end BenchVehicle
