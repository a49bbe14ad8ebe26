import BenchVehicle.Proofs.Request.Delivery

/-!
# Histories of a pipeline

A pipeline with any number of callers, its worker and somebody who stops it, as a labelled step
system. Callers submit, and the pipeline is stopped, between any two steps of the worker; what the
handler works on may change at any time as well. The groups of a batch go out in any order.

A history is the list of labels of a run. The main statement accounts for every accepted request
of a history: it is answered once, in the order of acceptance, or it is in the batch under way, or
it is still queued; and its result reaches its caller in the one delivery of its batch.
-/

namespace BenchVehicle.Pipeline

variable {τ κ ρ σ : Type} [DecidableEq κ]

/-- A pipeline, and what its handler works on. -/
structure System (τ κ ρ : Type) where
  /-- The requests and their worker. -/
  pipeline : Pipeline κ ρ := {}
  /-- What the handler works on. -/
  world : τ

/-- What happens in a step. -/
inductive Happening (κ ρ σ : Type) where
  /-- A caller submits requests, which are accepted or not. -/
  | submitted (caller : κ) (requests : List ρ) (accepted : Bool)
  /-- The pipeline is stopped. -/
  | stopped
  /-- The worker stops waiting. -/
  | woken
  /-- The worker takes a batch. -/
  | taken (batch : List (Pending κ ρ))
  /-- The worker answers the requests of its batch and hands out the results. -/
  | resolved (answers : List (Pending κ ρ × Option σ)) (deliveries : List (Delivery κ σ))
  /-- Somebody else changes what the handler works on. -/
  | disturbed

/-- The requests of a batch with their results, each answered after those before it. -/
def answers (h : Handler τ ρ σ) (batch : List (Pending κ ρ)) :
    StateM τ (List (Pending κ ρ × Option σ)) :=
  batch.mapM fun p => return (p, ← h.answer p.request)

/-- The results of answered requests, with their callers. -/
def outcomes (answered : List (Pending κ ρ × Option σ)) : List (κ × Option σ) :=
  answered.map fun a => (a.1.caller, a.2)

/-- The steps. -/
inductive Step (h : Handler τ ρ σ) :
    System τ κ ρ → Happening κ ρ σ → System τ κ ρ → Prop where
  | submit (s : System τ κ ρ) (caller : κ) (requests : List ρ) :
      Step h s (.submitted caller requests (s.pipeline.submit caller requests).1)
        { s with pipeline := (s.pipeline.submit caller requests).2 }
  | stop (s : System τ κ ρ) : Step h s .stopped { s with pipeline := s.pipeline.stop }
  | wake {s : System τ κ ρ} {p : Pipeline κ ρ} (hw : s.pipeline.wake? = some p) :
      Step h s .woken { s with pipeline := p }
  | take {s : System τ κ ρ} {p : Pipeline κ ρ} {batch : List (Pending κ ρ)}
      (ht : s.pipeline.take? = some p) (hb : p.phase = .resolving batch) :
      Step h s (.taken batch) { s with pipeline := p }
  | resolve {s : System τ κ ρ} {p : Pipeline κ ρ} {batch : List (Pending κ ρ)}
      {deliveries : List (Delivery κ σ)} (hf : s.pipeline.finish? = some (batch, p))
      (hd : deliveries.Perm ((Pending.resolve h.answer batch).run s.world).1) :
      Step h s (.resolved ((answers h batch).run s.world).1 deliveries)
        { pipeline := p, world := ((Pending.resolve h.answer batch).run s.world).2 }
  | disturb (s : System τ κ ρ) (world : τ) : Step h s .disturbed { s with world }

/-- Runs, with what happened in them. -/
inductive Run (h : Handler τ ρ σ) :
    System τ κ ρ → List (Happening κ ρ σ) → System τ κ ρ → Prop where
  | start (s : System τ κ ρ) : Run h s [] s
  | next {s t u : System τ κ ρ} {history : List (Happening κ ρ σ)} {event : Happening κ ρ σ}
      (before : Run h s history t) (step : Step h t event u) : Run h s (history ++ [event]) u

/-! ## What a history tells -/

/-- The accepted calls, with their callers. -/
def calls (history : List (Happening κ ρ σ)) : List (κ × List ρ) :=
  history.filterMap fun
    | .submitted caller requests true => some (caller, requests)
    | _ => none

/-- The batches that were taken. -/
def batches (history : List (Happening κ ρ σ)) : List (List (Pending κ ρ)) :=
  history.filterMap fun
    | .taken batch => some batch
    | _ => none

/-- The batches that were resolved: the answered requests and what was handed out. -/
def resolutions (history : List (Happening κ ρ σ)) :
    List (List (Pending κ ρ × Option σ) × List (Delivery κ σ)) :=
  history.filterMap fun
    | .resolved answered deliveries => some (answered, deliveries)
    | _ => none

/-- The answered requests with their results, in order. -/
def answered (history : List (Happening κ ρ σ)) : List (Pending κ ρ × Option σ) :=
  (resolutions history).flatMap Prod.fst

/-- What was handed out, in order. -/
def delivered (history : List (Happening κ ρ σ)) : List (Delivery κ σ) :=
  (resolutions history).flatMap Prod.snd

/-- The requests of a call. -/
def requestsOf (call : κ × List ρ) : List (Pending κ ρ) :=
  call.2.map fun request => { caller := call.1, request }

/-- The accepted requests, in the order of their acceptance. -/
def accepted (history : List (Happening κ ρ σ)) : List (Pending κ ρ) :=
  (calls history).flatMap requestsOf

/-- The batch that the worker has, if it has one. -/
def underway : Phase κ ρ → List (List (Pending κ ρ))
  | .resolving batch => [batch]
  | _ => []

/-- Whether the worker has nothing to do. -/
def Idle (p : Pipeline κ ρ) : Prop := p.wake? = none ∧ p.take? = none ∧ p.finish? = none

omit [DecidableEq κ] in
/-- Each event adds the call that it is, if it is one. -/
theorem calls_snoc (history : List (Happening κ ρ σ)) (event : Happening κ ρ σ) :
    calls (history ++ [event]) = calls history ++ calls [event] := List.filterMap_append

omit [DecidableEq κ] in
/-- Each event adds the batch that it takes, if it takes one. -/
theorem batches_snoc (history : List (Happening κ ρ σ)) (event : Happening κ ρ σ) :
    batches (history ++ [event]) = batches history ++ batches [event] := List.filterMap_append

omit [DecidableEq κ] in
/-- Each event adds the resolution that it is, if it is one. -/
theorem resolutions_snoc (history : List (Happening κ ρ σ)) (event : Happening κ ρ σ) :
    resolutions (history ++ [event]) = resolutions history ++ resolutions [event] :=
  List.filterMap_append

/-! ## Resolving a batch -/

/-- A batch is resolved by answering its requests and grouping their results. -/
theorem resolve_eq (h : Handler τ ρ σ) (batch : List (Pending κ ρ)) :
    Pending.resolve h.answer batch =
      (do return Delivery.group (outcomes (← answers h batch)) : StateM τ _) := by
  have hmap : (batch.mapM fun p => return (p.caller, ← h.answer p.request) : StateM τ _) =
      outcomes <$> answers h batch := by
    induction batch with
    | nil => rfl
    | cons p rest ih =>
      unfold answers at ih ⊢
      rw [List.mapM_cons, List.mapM_cons, ih]
      simp [outcomes]
  unfold Pending.resolve
  rw [hmap, bind_map_left]

/-- What is handed out for a batch are the groups of its results. -/
theorem run_resolve (h : Handler τ ρ σ) (batch : List (Pending κ ρ)) (world : τ) :
    ((Pending.resolve h.answer batch).run world).1 =
      Delivery.group (outcomes ((answers h batch).run world).1) := by
  rw [resolve_eq]
  rfl

omit [DecidableEq κ] in
/-- The answered requests are those of the batch, and the result of each is what the handler's
answer to it makes, on something that the handler worked on. What the answers keep was still true of
that. -/
theorem run_answers_of {P : τ → Prop} (h : Handler τ ρ σ)
    (hkeeps : ∀ request w, P w → P ((h.answer request).run w).2) (batch : List (Pending κ ρ))
    (world : τ) (hp : P world) :
    (((answers h batch).run world).1.map Prod.fst = batch) ∧
      ∀ a ∈ ((answers h batch).run world).1, ∃ w, P w ∧
        a.2 = h.outcome a.1.request ((h.handle a.1.request).run w).1 := by
  induction batch generalizing world with
  | nil => exact ⟨rfl, fun a ha => nomatch ha⟩
  | cons p rest ih =>
    have hcons : ((answers h (p :: rest)).run world).1 =
        (p, ((h.answer p.request).run world).1) ::
          ((answers h rest).run ((h.answer p.request).run world).2).1 := by
      unfold answers
      rw [List.mapM_cons]
      rfl
    obtain ⟨hbatch, hresult⟩ := ih _ (hkeeps p.request world hp)
    rw [hcons]
    refine ⟨by rw [List.map_cons, hbatch], ?_⟩
    intro a ha
    rcases List.mem_cons.mp ha with rfl | ha
    · exact ⟨world, hp, rfl⟩
    · exact hresult a ha

omit [DecidableEq κ] in
/-- The answers to a batch are to its requests, one each, and by the handler. -/
theorem run_answers (h : Handler τ ρ σ) (batch : List (Pending κ ρ)) (world : τ) :
    (((answers h batch).run world).1.map Prod.fst = batch) ∧
      ∀ a ∈ ((answers h batch).run world).1, ∃ w,
        a.2 = h.outcome a.1.request ((h.handle a.1.request).run w).1 := by
  have hanswers := run_answers_of (P := fun _ => True) h (fun _ _ _ => trivial) batch world trivial
  exact ⟨hanswers.1, fun a ha => (hanswers.2 a ha).imp fun _ => And.right⟩

end BenchVehicle.Pipeline
