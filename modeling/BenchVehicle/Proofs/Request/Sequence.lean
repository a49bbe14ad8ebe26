import BenchVehicle.Proofs.Request.Accounting

/-!
# Requests one by one

As long as nobody else changes what the handler works on, it does not show how the requests were cut
into batches. What was accepted first is answered first, and the results and what the handler is
left with are those of one long batch.
-/

namespace BenchVehicle.Pipeline

variable {τ κ ρ σ : Type} {h : Handler τ ρ σ} {s t u : System τ κ ρ}
  {history : List (Happening κ ρ σ)}

/-- The requests that were accepted and are not answered: the batch under way, and the queue. -/
def outstanding (p : Pipeline κ ρ) : List (Pending κ ρ) :=
  (underway p.phase).flatten ++ p.queue.items

/-- A worker that has nothing to do for now has answered everything. -/
theorem outstanding_eq_nil {p : Pipeline κ ρ} (h : Idle p) (hp : p.phase ≠ .finished) :
    outstanding p = [] := by
  rcases h.cases with ⟨hphase, -, hempty⟩ | hphase
  · rw [outstanding, hphase, hempty]
    rfl
  · exact absurd hphase hp

/-! ## Histories one after the other -/

/-- What a later history answers comes after what an earlier one does. -/
theorem answered_append (before after : List (Happening κ ρ σ)) :
    answered (before ++ after) = answered before ++ answered after := by
  simp [answered, resolutions, List.filterMap_append, List.flatMap_append]

/-- What a later history delivers comes after what an earlier one does. -/
theorem delivered_append (before after : List (Happening κ ρ σ)) :
    delivered (before ++ after) = delivered before ++ delivered after := by
  simp [delivered, resolutions, List.filterMap_append, List.flatMap_append]

/-- What a later history accepts comes after what an earlier one does. -/
theorem accepted_append (before after : List (Happening κ ρ σ)) :
    accepted (before ++ after) = accepted before ++ accepted after := by
  simp [accepted, calls, List.filterMap_append, List.flatMap_append]

/-- A resolution answers its batch. -/
theorem answered_resolved (answers : List (Pending κ ρ × Option σ))
    (deliveries : List (Delivery κ σ)) : answered [.resolved answers deliveries] = answers :=
  List.append_nil _

/-- A resolution delivers what it delivers. -/
theorem delivered_resolved (answers : List (Pending κ ρ × Option σ))
    (deliveries : List (Delivery κ σ)) : delivered [.resolved answers deliveries] = deliveries :=
  List.append_nil _

/-- The outcomes of answers come in their order. -/
theorem outcomes_append (first second : List (Pending κ ρ × Option σ)) :
    outcomes (first ++ second) = outcomes first ++ outcomes second := List.map_append

/-- Two batches are answered like one. -/
theorem answers_append (h : Handler τ ρ σ) (first second : List (Pending κ ρ)) (world : τ) :
    (answers h (first ++ second)).run world =
      let begun := (answers h first).run world
      let ended := (answers h second).run begun.2
      (begun.1 ++ ended.1, ended.2) := by
  unfold answers
  rw [List.mapM_append]
  rfl

/-! ## The sequence -/

variable [DecidableEq κ]

/-- That the requests of a history were answered one by one. -/
structure InSequence (h : Handler τ ρ σ) (s : System τ κ ρ) (history : List (Happening κ ρ σ))
    (t : System τ κ ρ) : Prop where
  /-- They were answered in the order of acceptance. -/
  in_order : outstanding s.pipeline ++ accepted history =
    (answered history).map Prod.fst ++ outstanding t.pipeline
  /-- Their results, and what the handler is left with, are those of one batch of all of them. -/
  one_by_one : (answers h ((answered history).map Prod.fst)).run s.world =
    (answered history, t.world)
  /-- What a caller received is what its requests gave. -/
  received : ∀ caller, Delivery.received caller (delivered history) =
    Delivery.resultsOf caller (outcomes (answered history))

/-- Where nothing happens all is in sequence. -/
theorem InSequence.refl (s : System τ κ ρ) : InSequence h s [] s where
  in_order := List.append_nil _
  one_by_one := rfl
  received _ := rfl

/-- Histories in sequence one after the other are in sequence. -/
theorem InSequence.append {later : List (Happening κ ρ σ)} (hst : InSequence h s history t)
    (htu : InSequence h t later u) : InSequence h s (history ++ later) u where
  in_order := by
    rw [accepted_append, ← List.append_assoc, hst.in_order, List.append_assoc, htu.in_order,
      answered_append, List.map_append, List.append_assoc]
  one_by_one := by
    rw [answered_append, List.map_append, answers_append, hst.one_by_one]
    dsimp only
    rw [htu.one_by_one]
  received caller := by
    rw [delivered_append, Delivery.received_append, hst.received, htu.received, answered_append,
      outcomes_append, Delivery.resultsOf_append]

/-- A step without answers, after which the worker owes what it owed and was asked for. -/
theorem InSequence.of_silent {event : Happening κ ρ σ} (hr : resolutions [event] = [])
    (hw : t.world = s.world)
    (ho : outstanding t.pipeline = outstanding s.pipeline ++ accepted [event]) :
    InSequence h s [event] t := by
  have hanswered : answered [event] = [] := by rw [answered, hr, List.flatMap_nil]
  have hdelivered : delivered [event] = [] := by rw [delivered, hr, List.flatMap_nil]
  constructor
  · rw [hanswered, ho, List.map_nil, List.nil_append]
  · rw [hanswered, hw]
    rfl
  · intro caller
    rw [hanswered, hdelivered]
    rfl

/-- What a step answers, it answers in sequence. -/
theorem Step.inSequence {event : Happening κ ρ σ} (step : Step h s event t)
    (hevent : event ≠ .disturbed) : InSequence h s [event] t := by
  cases step with
  | submit caller requests =>
    refine .of_silent rfl rfl ?_
    cases ha : s.pipeline.queue.active with
    | true =>
      rw [submit_of_active ha]
      simp [outstanding, accepted, calls]
    | false =>
      rw [submit_of_closed ha]
      simp [accepted, calls]
  | stop => exact .of_silent rfl rfl (List.append_nil _).symm
  | @wake p hw =>
    obtain ⟨hqueue, hphase, hnext⟩ := wake?_eq_some hw
    refine .of_silent rfl rfl ?_
    have hbatch : underway p.phase = underway s.pipeline.phase := by
      rw [hphase]
      rcases hnext with hnext | ⟨hnext, -⟩ <;> rw [hnext] <;> rfl
    rw [outstanding, hqueue, hbatch]
    exact (List.append_nil _).symm
  | take ht hb =>
    obtain ⟨hphase, rfl⟩ := take?_eq_some ht
    refine .of_silent rfl rfl ?_
    simp [outstanding, underway, hphase, accepted, calls]
  | @resolve p batch deliveries hf hd =>
    obtain ⟨hphase, rfl⟩ := finish?_eq_some hf
    have hbatch : ((answers h batch).run s.world).1.map Prod.fst = batch :=
      (run_answers h batch s.world).1
    rw [run_resolve] at hd
    constructor
    · rw [answered_resolved, hbatch]
      simp [outstanding, underway, hphase, accepted, calls]
    · rw [answered_resolved, hbatch, resolve_eq]
      rfl
    · intro caller
      rw [answered_resolved, delivered_resolved, ← Delivery.received_group]
      exact Delivery.received_perm hd (Delivery.nodup_callers_group _) caller
  | disturb => exact absurd rfl hevent

/-- However a run cuts the requests into batches, they are answered in sequence. -/
theorem Run.inSequence (run : Run h s history t) (hd : .disturbed ∉ history) :
    InSequence h s history t := by
  induction run with
  | start => exact .refl _
  | next before step ih =>
    rw [List.mem_append, List.mem_singleton, not_or] at hd
    exact (ih hd.1).append (step.inSequence (Ne.symm hd.2))

/-- A request is answered after those before it, and those after it are answered after it. -/
theorem InSequence.split (hs : InSequence h s history t)
    {before after : List (Pending κ ρ × Option σ)} {a : Pending κ ρ × Option σ}
    (ha : answered history = before ++ a :: after) :
    let mid := ((answers h (before.map Prod.fst)).run s.world).2
    ((h.answer a.1.request).run mid).1 = a.2 ∧
      (answers h (after.map Prod.fst)).run ((h.answer a.1.request).run mid).2 =
        (after, t.world) := by
  have hall := hs.one_by_one
  rw [ha, List.map_append, answers_append] at hall
  obtain ⟨hresults, hworld⟩ := Prod.mk.inj hall
  have hlength : ((answers h (before.map Prod.fst)).run s.world).1.length = before.length := by
    have hbatch := congrArg List.length (run_answers h (before.map Prod.fst) s.world).1
    rw [List.length_map, List.length_map] at hbatch
    exact hbatch
  obtain ⟨-, hrest⟩ := List.append_inj hresults hlength
  have hcons (world : τ) : (answers h ((a :: after).map Prod.fst)).run world =
      ((a.1, ((h.answer a.1.request).run world).1) ::
          ((answers h (after.map Prod.fst)).run ((h.answer a.1.request).run world).2).1,
        ((answers h (after.map Prod.fst)).run ((h.answer a.1.request).run world).2).2) := by
    unfold answers
    rw [List.map_cons, List.mapM_cons]
    rfl
  rw [hcons] at hrest hworld
  obtain ⟨hfirst, hafter⟩ := List.cons.inj hrest
  exact ⟨congrArg Prod.snd hfirst, Prod.ext hafter hworld⟩

end BenchVehicle.Pipeline
