import BenchVehicle.Proofs.Request.History

/-!
# Accounting for requests

What a pipeline owes its callers. The invariant of a run says that the batches taken so far cut the
accepted calls into consecutive groups, of which the queue holds the rest, and that all batches but
the one under way were resolved. From it follows where each accepted request is, and what each
caller received.
-/

namespace BenchVehicle.Pipeline

variable {τ κ ρ σ : Type}

/-! ## Single steps -/

/-- An open queue takes a call in behind what it holds. -/
theorem submit_of_active {p : Pipeline κ ρ} (ha : p.queue.active = true) (caller : κ)
    (requests : List ρ) :
    p.submit caller requests =
      (true, { p with queue := { p.queue with
        items := p.queue.items ++ requestsOf (caller, requests) } }) := by
  simp [submit, Queue.pushAll, ha, requestsOf]

/-- A closed queue rejects a call, and nothing changes. -/
theorem submit_of_closed {p : Pipeline κ ρ} (ha : p.queue.active = false) (caller : κ)
    (requests : List ρ) : p.submit caller requests = (false, p) := by
  simp [submit, Queue.pushAll, ha]

/-- The worker stops waiting for requests that are there or for ever, and leaves the queue as it
is. -/
theorem wake?_eq_some {p q : Pipeline κ ρ} (h : p.wake? = some q) :
    q.queue = p.queue ∧ p.phase = .waiting ∧
      (q.phase = .awake ∨ q.phase = .finished ∧ p.queue.active = false) := by
  unfold wake? at h
  split at h
  · next hp _ =>
    cases h
    exact ⟨rfl, hp, .inl rfl⟩
  · next hp hw =>
    cases h
    refine ⟨rfl, hp, .inr ⟨rfl, ?_⟩⟩
    cases ha : p.queue.active with
    | false => rfl
    | true =>
      simp only [Queue.wait?, ha, if_true] at hw
      split at hw <;> cases hw
  · cases h

/-- The worker takes all that is queued. -/
theorem take?_eq_some {p q : Pipeline κ ρ} (h : p.take? = some q) :
    p.phase = .awake ∧
      q = { queue := { p.queue with items := [] }, phase := .resolving p.queue.items } := by
  unfold take? at h
  split at h
  · next hp =>
    cases h
    exact ⟨hp, rfl⟩
  · cases h

/-- The worker resolves the batch that it has, and waits again. -/
theorem finish?_eq_some {p q : Pipeline κ ρ} {batch : List (Pending κ ρ)}
    (h : p.finish? = some (batch, q)) :
    p.phase = .resolving batch ∧ q = { p with phase := .waiting } := by
  unfold finish? at h
  split at h
  · next hp =>
    cases h
    exact ⟨hp, rfl⟩
  · cases h

/-- A worker that has nothing to do has no batch, and either its queue is open and empty or it is
done for good. -/
theorem Idle.cases {p : Pipeline κ ρ} (h : Idle p) :
    p.phase = .waiting ∧ p.queue.active = true ∧ p.queue.items = [] ∨ p.phase = .finished := by
  obtain ⟨hwake, htake, hfinish⟩ := h
  cases hp : p.phase with
  | awake => simp [take?, hp] at htake
  | resolving batch => simp [finish?, hp] at hfinish
  | finished => exact .inr rfl
  | waiting =>
    left
    simp only [wake?, hp, Queue.wait?] at hwake
    cases ha : p.queue.active with
    | false => simp [ha] at hwake
    | true =>
      cases hi : p.queue.items with
      | nil => exact ⟨rfl, rfl, rfl⟩
      | cons item rest => simp [ha, hi] at hwake

variable [DecidableEq κ]

/-! ## The invariant -/

/-- A resolved batch: each result is what the handler's answer makes of a request, and each caller
whose requests gave results gets all of them in one delivery. -/
structure Resolved (h : Handler τ ρ σ) (answered : List (Pending κ ρ × Option σ))
    (deliveries : List (Delivery κ σ)) : Prop where
  /-- The result of each request. -/
  result : ∀ a ∈ answered, ∃ w, a.2 = h.outcome a.1.request ((h.handle a.1.request).run w).1
  /-- No caller gets two deliveries. -/
  nodup : (deliveries.map Delivery.caller).Nodup
  /-- A delivery is all that the requests of its caller gave, and not empty. -/
  mem_iff : ∀ d, d ∈ deliveries ↔
    d.results = Delivery.resultsOf d.caller (outcomes answered) ∧ d.results ≠ []
  /-- What a caller receives. -/
  received_eq : ∀ caller, Delivery.received caller deliveries =
    Delivery.resultsOf caller (outcomes answered)

/-- A batch is resolved whatever the order in which its groups go out. -/
theorem resolved_of_perm (h : Handler τ ρ σ) {batch : List (Pending κ ρ)} {world : τ}
    {deliveries : List (Delivery κ σ)}
    (hd : deliveries.Perm ((Pending.resolve h.answer batch).run world).1) :
    Resolved h ((answers h batch).run world).1 deliveries := by
  rw [run_resolve] at hd
  have hn := Delivery.nodup_callers_group (outcomes ((answers h batch).run world).1)
  constructor
  · exact (run_answers h batch world).2
  · exact (hd.map _).nodup_iff.mpr hn
  · exact Delivery.mem_of_perm_group hd
  · intro caller
    rw [Delivery.received_perm hd hn, Delivery.received_group]

/-- What a run keeps true of its history and its pipeline. -/
structure Books (h : Handler τ ρ σ) (history : List (Happening κ ρ σ)) (p : Pipeline κ ρ) :
    Prop where
  /-- The batches are made of whole calls, in the order of the calls, and so is the queue. -/
  whole : ∃ (groups : List (List (κ × List ρ))) (waiting : List (κ × List ρ)),
    calls history = groups.flatten ++ waiting ∧
    batches history = groups.map (fun g => g.flatMap requestsOf) ∧
    p.queue.items = waiting.flatMap requestsOf
  /-- All batches but the one under way were resolved. -/
  worked : batches history =
    (resolutions history).map (fun r => r.1.map Prod.fst) ++ underway p.phase
  /-- Each batch was resolved properly. -/
  resolved : ∀ r ∈ resolutions history, Resolved h r.1 r.2
  /-- The worker only finishes when the queue is closed. -/
  closed : p.phase = .finished → p.queue.active = false

/-- Where no request came in the books are empty. -/
theorem books_empty (h : Handler τ ρ σ) : Books h [] ({} : Pipeline κ ρ) where
  whole := ⟨[], [], rfl, rfl, rfl⟩
  worked := rfl
  resolved := fun _ hr => nomatch hr
  closed := fun hp => nomatch hp

/-- A step that is none of taking, resolving and accepting leaves the books as they are. -/
theorem Books.quiet {h : Handler τ ρ σ} {history : List (Happening κ ρ σ)} {p q : Pipeline κ ρ}
    (hb : Books h history p) {event : Happening κ ρ σ} (hc : calls [event] = [])
    (ht : batches [event] = []) (hr : resolutions [event] = [])
    (hi : q.queue.items = p.queue.items) (hu : underway q.phase = underway p.phase)
    (hclosed : q.phase = .finished → q.queue.active = false) :
    Books h (history ++ [event]) q := by
  constructor
  · rw [calls_snoc, batches_snoc, hc, ht, List.append_nil, List.append_nil, hi]
    exact hb.whole
  · rw [batches_snoc, resolutions_snoc, ht, hr, List.append_nil, List.append_nil, hu]
    exact hb.worked
  · rw [resolutions_snoc, hr, List.append_nil]
    exact hb.resolved
  · exact hclosed

/-- A call that is accepted joins the queue. -/
theorem Books.accept {h : Handler τ ρ σ} {history : List (Happening κ ρ σ)} {p q : Pipeline κ ρ}
    (hb : Books h history p) (caller : κ) (requests : List ρ)
    (hi : q.queue.items = p.queue.items ++ requestsOf (caller, requests))
    (hphase : q.phase = p.phase) (hactive : q.queue.active = p.queue.active) :
    Books h (history ++ [.submitted caller requests true]) q := by
  obtain ⟨groups, waiting, hcalls, hbatches, hitems⟩ := hb.whole
  constructor
  · refine ⟨groups, waiting ++ [(caller, requests)], ?_, ?_, ?_⟩
    · rw [calls_snoc, hcalls, List.append_assoc]
      rfl
    · rw [batches_snoc, hbatches]
      exact List.append_nil _
    · simp [hi, hitems]
  · rw [batches_snoc, resolutions_snoc, hphase]
    simpa [batches, resolutions] using hb.worked
  · rw [resolutions_snoc]
    simpa [resolutions] using hb.resolved
  · rw [hphase, hactive]
    exact hb.closed

/-- The calls that are queued become a batch. -/
theorem Books.take {h : Handler τ ρ σ} {history : List (Happening κ ρ σ)} {p q : Pipeline κ ρ}
    (hb : Books h history p) (hawake : p.phase = .awake) (hi : q.queue.items = [])
    (hphase : q.phase = .resolving p.queue.items) :
    Books h (history ++ [.taken p.queue.items]) q := by
  obtain ⟨groups, waiting, hcalls, hbatches, hitems⟩ := hb.whole
  have hworked := hb.worked
  rw [hawake] at hworked
  constructor
  · refine ⟨groups ++ [waiting], [], ?_, ?_, hi⟩
    · rw [calls_snoc, hcalls]
      simp [calls]
    · rw [batches_snoc, hbatches, hitems]
      simp [batches]
  · rw [batches_snoc, resolutions_snoc, hworked, hphase]
    simp [batches, resolutions, underway]
  · rw [resolutions_snoc]
    simpa [resolutions] using hb.resolved
  · intro hfinished
    rw [hphase] at hfinished
    cases hfinished

/-- The batch under way is resolved. -/
theorem Books.resolve {h : Handler τ ρ σ} {history : List (Happening κ ρ σ)} {p q : Pipeline κ ρ}
    (hb : Books h history p) {batch : List (Pending κ ρ)} (hunderway : p.phase = .resolving batch)
    (world : τ) {deliveries : List (Delivery κ σ)}
    (hd : deliveries.Perm ((Pending.resolve h.answer batch).run world).1)
    (hi : q.queue = p.queue) (hphase : q.phase = .waiting) :
    Books h (history ++ [.resolved ((answers h batch).run world).1 deliveries]) q := by
  have hworked := hb.worked
  rw [hunderway] at hworked
  constructor
  · rw [calls_snoc, batches_snoc, hi]
    simpa [calls, batches] using hb.whole
  · rw [batches_snoc, resolutions_snoc, hworked, hphase]
    simp [batches, resolutions, underway, (run_answers h batch world).1]
  · rw [resolutions_snoc]
    intro r hr
    rcases List.mem_append.mp hr with hr | hr
    · exact hb.resolved r hr
    · obtain rfl := List.mem_singleton.mp hr
      exact resolved_of_perm h hd
  · intro hfinished
    rw [hphase] at hfinished
    cases hfinished

/-- Every step keeps the books. -/
theorem Step.books {h : Handler τ ρ σ} {s t : System τ κ ρ} {event : Happening κ ρ σ}
    (step : Step h s event t) {history : List (Happening κ ρ σ)}
    (hb : Books h history s.pipeline) : Books h (history ++ [event]) t.pipeline := by
  cases step with
  | submit caller requests =>
    cases ha : s.pipeline.queue.active with
    | false =>
      rw [submit_of_closed ha]
      exact hb.quiet rfl rfl rfl rfl rfl hb.closed
    | true =>
      rw [submit_of_active ha]
      exact hb.accept caller requests rfl rfl rfl
  | stop => exact hb.quiet rfl rfl rfl rfl rfl fun _ => rfl
  | wake hw =>
    obtain ⟨hqueue, hphase, hnext⟩ := wake?_eq_some hw
    refine hb.quiet rfl rfl rfl (by rw [hqueue]) ?_ ?_
    · rw [hphase]
      rcases hnext with hn | ⟨hn, -⟩ <;> rw [hn] <;> rfl
    · intro hf
      rcases hnext with hn | ⟨-, ha⟩
      · rw [hn] at hf
        cases hf
      · exact hqueue ▸ ha
  | take ht hphase =>
    obtain ⟨hawake, rfl⟩ := take?_eq_some ht
    cases hphase
    exact hb.take hawake rfl rfl
  | resolve hf hd =>
    obtain ⟨hphase, rfl⟩ := finish?_eq_some hf
    exact hb.resolve hphase s.world hd rfl rfl
  | disturb world => exact hb.quiet rfl rfl rfl rfl rfl hb.closed

/-- After every run from an empty pipeline the books are in order. -/
theorem Run.books {h : Handler τ ρ σ} {s t : System τ κ ρ} {history : List (Happening κ ρ σ)}
    (run : Run h s history t) (hs : s.pipeline = {}) : Books h history t.pipeline := by
  induction run with
  | start =>
    rw [hs]
    exact books_empty h
  | next _ step ih => exact step.books ih

/-! ## Closing -/

/-- Only a stop closes a queue. -/
theorem Step.closes {h : Handler τ ρ σ} {s t : System τ κ ρ} {event : Happening κ ρ σ}
    (step : Step h s event t) (hopen : s.pipeline.queue.active = true)
    (hclosed : t.pipeline.queue.active = false) :
    event = .stopped ∧ t.pipeline.queue.items = s.pipeline.queue.items := by
  cases step with
  | stop => exact ⟨rfl, rfl⟩
  | submit caller requests =>
    rw [submit_of_active hopen, hopen] at hclosed
    cases hclosed
  | wake hw =>
    rw [(wake?_eq_some hw).1, hopen] at hclosed
    cases hclosed
  | take ht _ =>
    obtain ⟨-, rfl⟩ := take?_eq_some ht
    rw [hopen] at hclosed
    cases hclosed
  | resolve hf _ =>
    obtain ⟨-, rfl⟩ := finish?_eq_some hf
    rw [hopen] at hclosed
    cases hclosed
  | disturb =>
    rw [hopen] at hclosed
    cases hclosed

/-- A closed queue keeps what it holds until that is taken. -/
theorem Step.keeps_closed {h : Handler τ ρ σ} {s t : System τ κ ρ} {event : Happening κ ρ σ}
    (step : Step h s event t) (hclosed : s.pipeline.queue.active = false) :
    t.pipeline.queue.items = s.pipeline.queue.items ∨ t.pipeline.queue.items = [] := by
  cases step with
  | stop => exact .inl rfl
  | submit caller requests =>
    rw [submit_of_closed hclosed]
    exact .inl rfl
  | wake hw => exact .inl (by rw [(wake?_eq_some hw).1])
  | take ht _ =>
    obtain ⟨-, rfl⟩ := take?_eq_some ht
    exact .inr rfl
  | resolve hf _ =>
    obtain ⟨-, rfl⟩ := finish?_eq_some hf
    exact .inl rfl
  | disturb => exact .inl rfl

/-- A queue that is closed was closed by a stop. It has kept what it held then, unless the worker,
which was awake, has taken that. -/
theorem Run.left_at_stop {h : Handler τ ρ σ} {s t : System τ κ ρ}
    {history : List (Happening κ ρ σ)} (run : Run h s history t) (hs : s.pipeline = {})
    (hclosed : t.pipeline.queue.active = false) :
    ∃ before after u, history = before ++ .stopped :: after ∧ Run h s before u ∧
      u.pipeline.queue.active = true ∧
      (t.pipeline.queue.items = u.pipeline.queue.items ∨ t.pipeline.queue.items = []) := by
  induction run with
  | start =>
    rw [hs] at hclosed
    cases hclosed
  | @next t' u' history' event prior step ih =>
    -- The last step closed the queue, or it was closed before.
    cases ha : t'.pipeline.queue.active with
    | true =>
      obtain ⟨rfl, hitems⟩ := step.closes ha hclosed
      exact ⟨history', [], t', rfl, prior, ha, .inl hitems⟩
    | false =>
      obtain ⟨before, after, u, rfl, hrun, hopen, hitems⟩ := ih ha
      refine ⟨before, after ++ [event], u, by simp, hrun, hopen, ?_⟩
      rcases step.keeps_closed ha with hkept | hempty
      · exact hkept ▸ hitems
      · exact .inr hempty

/-! ## The account -/

/-- A caller is delivered the results of its own requests. -/
theorem received_delivered {h : Handler τ ρ σ} {history : List (Happening κ ρ σ)}
    (hr : ∀ r ∈ resolutions history, Resolved h r.1 r.2) (caller : κ) :
    Delivery.received caller (delivered history) =
      Delivery.resultsOf caller (outcomes (answered history)) := by
  unfold delivered answered
  generalize resolutions history = rs at hr
  induction rs with
  | nil => rfl
  | cons r rest ih =>
    have hrest := ih fun r' hr' => hr r' (List.mem_cons_of_mem _ hr')
    have hhead := (hr r List.mem_cons_self).received_eq caller
    rw [List.flatMap_cons, List.flatMap_cons, Delivery.received_append, hhead, hrest, outcomes,
      outcomes, outcomes, List.map_append, Delivery.resultsOf_append]

omit [DecidableEq κ] in
/-- The requests that are answered are those of the resolved batches. -/
theorem map_fst_answered (history : List (Happening κ ρ σ)) :
    (answered history).map Prod.fst =
      ((resolutions history).map fun r => r.1.map Prod.fst).flatten := by
  unfold answered
  rw [List.map_flatMap, List.flatMap_def]

omit [DecidableEq κ] in
/-- A request that was accepted was submitted in a call that was. -/
theorem mem_accepted {history : List (Happening κ ρ σ)} {p : Pending κ ρ}
    (hp : p ∈ accepted history) :
    ∃ requests, .submitted p.caller requests true ∈ history ∧ p.request ∈ requests := by
  obtain ⟨⟨caller, requests⟩, hcall, hp⟩ := List.mem_flatMap.mp hp
  obtain ⟨request, hrequest, rfl⟩ := List.mem_map.mp hp
  obtain ⟨event, hevent, hsome⟩ := List.mem_filterMap.mp hcall
  refine ⟨requests, ?_, hrequest⟩
  split at hsome
  · cases hsome
    exact hevent
  · cases hsome

/-- What has become of the requests of a history. -/
structure Account (h : Handler τ ρ σ) (start : System τ κ ρ) (history : List (Happening κ ρ σ))
    (s : System τ κ ρ) : Prop where
  /-- What a caller received, all deliveries taken together, is what its answered requests gave, in
  their order. -/
  received : ∀ caller, Delivery.received caller (delivered history) =
    Delivery.resultsOf caller (outcomes (answered history))
  /-- The accepted requests are, in the order of their acceptance: those that were answered, those
  of the batch under way, and those in the queue. -/
  in_order : accepted history = (answered history).map Prod.fst ++
    (underway s.pipeline.phase).flatten ++ s.pipeline.queue.items
  /-- The result of a request is what the handler gave, or the result for requests that went down,
  or nothing. -/
  result : ∀ a ∈ answered history, ∃ w,
    a.2 = h.outcome a.1.request ((h.handle a.1.request).run w).1
  /-- A request that was answered belongs to a call that was accepted. -/
  accepted : ∀ a ∈ answered history, ∃ requests,
    .submitted a.1.caller requests true ∈ history ∧ a.1.request ∈ requests
  /-- The resolved batches and the one under way cut the accepted calls into consecutive groups; the
  calls that are left make up the queue. So no call is split. -/
  together : ∃ (groups : List (List (κ × List ρ))) (waiting : List (κ × List ρ)),
    calls history = groups.flatten ++ waiting ∧
    (resolutions history).map (fun r => r.1.map Prod.fst) ++ underway s.pipeline.phase =
      groups.map (fun g => g.flatMap requestsOf) ∧
    s.pipeline.queue.items = waiting.flatMap requestsOf
  /-- A resolved batch has one delivery at most for each caller. Its deliveries are not empty and
  hold all that the requests of their caller gave. -/
  once : ∀ r ∈ resolutions history, (r.2.map Delivery.caller).Nodup ∧
    ∀ d, d ∈ r.2 ↔ d.results = Delivery.resultsOf d.caller (outcomes r.1) ∧ d.results ≠ []
  /-- Once the worker has nothing to do, no batch is under way, and what is left in the queue was
  there when the queue was closed. -/
  left : Idle s.pipeline → underway s.pipeline.phase = [] ∧ (s.pipeline.queue.items ≠ [] →
    ∃ before after t, history = before ++ .stopped :: after ∧ Run h start before t ∧
      t.pipeline.queue.active = true ∧ s.pipeline.queue.items = t.pipeline.queue.items)

/-- In every run, whatever the order of its steps, each accepted request is answered once at most
and in the order of acceptance, its result reaches its caller with those of its call, and it stays
without an answer only if it was still queued when the queue was closed. -/
theorem account_of_run (h : Handler τ ρ σ) (world : τ) {history : List (Happening κ ρ σ)}
    {s : System τ κ ρ} (run : Run h { world } history s) :
    Account h { world } history s := by
  have books := run.books rfl
  obtain ⟨groups, waiting, hcalls, hbatches, hitems⟩ := books.whole
  have hin_order : accepted history = (answered history).map Prod.fst ++
      (underway s.pipeline.phase).flatten ++ s.pipeline.queue.items := by
    have hflushed : (answered history).map Prod.fst ++ (underway s.pipeline.phase).flatten =
        groups.flatten.flatMap requestsOf := by
      rw [map_fst_answered, ← List.flatten_append, ← books.worked, hbatches]
      simp [List.flatMap_def, List.map_flatten, List.flatten_flatten, Function.comp_def]
    rw [hflushed, accepted, hcalls, List.flatMap_append, hitems]
  constructor
  · exact received_delivered books.resolved
  · exact hin_order
  · intro a ha
    obtain ⟨r, hr, ha⟩ := List.mem_flatMap.mp ha
    exact (books.resolved r hr).result a ha
  · intro a ha
    apply mem_accepted
    rw [hin_order, List.append_assoc]
    exact List.mem_append_left _ (List.mem_map.mpr ⟨a, ha, rfl⟩)
  · exact ⟨groups, waiting, hcalls, books.worked ▸ hbatches, hitems⟩
  · intro r hr
    exact ⟨(books.resolved r hr).nodup, (books.resolved r hr).mem_iff⟩
  · intro hidle
    rcases hidle.cases with ⟨hphase, -, hempty⟩ | hphase
    · rw [hphase]
      exact ⟨rfl, fun hne => absurd hempty hne⟩
    · have hclosed := books.closed hphase
      rw [hphase]
      refine ⟨rfl, fun hne => ?_⟩
      obtain ⟨before, after, t, hhistory, hrun, hopen, hsame⟩ := run.left_at_stop rfl hclosed
      exact ⟨before, after, t, hhistory, hrun, hopen, hsame.resolve_right hne⟩

/-- A handler that goes down on 0 and else gives ten times the request. -/
def tenfold : Handler Unit Nat Nat where
  handle request := pure (if request = 0 then none else some (10 * request))
  onCrash := some fun _ => 1

/-- Two calls that are resolved together, one that is left in the queue, and one that comes too
late. -/
def stoppedHistory : List (Happening Nat Nat Nat) :=
  [.submitted 7 [4, 0] true, .submitted 8 [6] true, .woken, .taken [⟨7, 4⟩, ⟨7, 0⟩, ⟨8, 6⟩],
    .submitted 7 [5] true, .stopped, .submitted 8 [2] false,
    .resolved [(⟨7, 4⟩, some 40), (⟨7, 0⟩, some 1), (⟨8, 6⟩, some 60)] [⟨8, [60]⟩, ⟨7, [40, 1]⟩],
    .woken]

/-- The account of a run in which the pipeline is stopped in the end. -/
theorem account_of_stopped_run :
    Run tenfold { world := () } stoppedHistory
        { pipeline := { queue := ⟨[⟨7, 5⟩], false⟩, phase := .finished }, world := () } ∧
      Account tenfold { world := () } stoppedHistory
        { pipeline := { queue := ⟨[⟨7, 5⟩], false⟩, phase := .finished }, world := () } := by
  have run : Run tenfold { world := () } stoppedHistory
      { pipeline := { queue := ⟨[⟨7, 5⟩], false⟩, phase := .finished }, world := () } := by
    have submitted := (Run.start (h := tenfold) { world := () }).next (.submit _ 7 [4, 0])
      |>.next (.submit _ 8 [6])
    have taken := (submitted.next (.wake rfl)).next (.take rfl rfl)
    have stopped := (taken.next (.submit _ 7 [5])).next (.stop _) |>.next (.submit _ 8 [2])
    have order : List.Perm [(⟨8, [60]⟩ : Delivery Nat Nat), ⟨7, [40, 1]⟩]
        [⟨7, [40, 1]⟩, ⟨8, [60]⟩] := .swap _ _ []
    have resolved := stopped.next (.resolve rfl order)
    exact resolved.next (.wake rfl)
  exact ⟨run, account_of_run tenfold () run⟩

end BenchVehicle.Pipeline
