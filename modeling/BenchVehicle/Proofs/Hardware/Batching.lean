import BenchVehicle.Proofs.Hardware.Workers

/-!
# Batches do not show

Requests for gets and sets are submitted call by call and answered batch by batch. What comes of
them is what comes of answering them one by one, in the order of their submission: the same results,
and the same bench. A request that fails, or goes down with a listener, is answered like any other,
and those after it go on with the bench that it left.
-/

namespace BenchVehicle

open Op Hardware Pipeline

namespace Worker

variable {ρ α σ : Type} {w : Worker ρ α σ} {hw hw' : Hardware} {history : List (Happening Nat ρ σ)}

/-- Answers requests one by one. -/
def oneByOne (w : Worker ρ α σ) (requests : List (Pending Nat ρ)) : StateM Hardware (List σ) :=
  requests.mapM fun p => w.serve p.request

/-- That requests were answered as if one by one. -/
structure Sequential (w : Worker ρ α σ) (hw : Hardware) (history : List (Happening Nat ρ σ))
    (hw' : Hardware) : Prop where
  /-- The answered requests are the first of those that were under way and of those that were
  accepted, in the order of acceptance. -/
  in_order : outstanding (w.pipeline hw) ++ accepted history =
    (answered history).map Prod.fst ++ outstanding (w.pipeline hw')
  /-- They are all of these once the worker has nothing to do for now. -/
  complete : Idle (w.pipeline hw') → (w.pipeline hw').phase ≠ .finished →
    outstanding (w.pipeline hw') = []
  /-- The results are those of answering the requests one by one. -/
  results : (answered history).map Prod.snd =
    ((w.oneByOne ((answered history).map Prod.fst)).run hw).1.map some
  /-- So is the bench, but for the pipeline. -/
  bench : hw' = w.withPipeline ((w.oneByOne ((answered history).map Prod.fst)).run hw).2
    (w.pipeline hw')
  /-- What a caller received are the results of its requests, in their order. -/
  received : ∀ caller, Delivery.received caller (delivered history) =
    Delivery.resultsOf caller (outcomes (answered history))
  /-- A request is answered by what comes of its access after the requests before, and the requests
  after it go on from there, whatever that is. -/
  apart : ∀ before a after, answered history = before ++ a :: after → ∃ found mid,
    Outcome (w.access a.1.request) ((w.oneByOne (before.map Prod.fst)).run hw).2 found mid ∧
      a.2 = some (w.result a.1.request found) ∧
      after.map Prod.snd = ((w.oneByOne (after.map Prod.fst)).run mid).1.map some

/-- The answers to a batch are the results of answering its requests one by one. -/
theorem run_answers (w : Worker ρ α σ) (batch : List (Pending Nat ρ)) (hw : Hardware) :
    ((answers w.handler batch).run hw).1.map Prod.snd = ((w.oneByOne batch).run hw).1.map some ∧
      ((answers w.handler batch).run hw).2 = ((w.oneByOne batch).run hw).2 := by
  induction batch generalizing hw with
  | nil => exact ⟨rfl, rfl⟩
  | cons p rest ih =>
    obtain ⟨hresults, hbench⟩ := ih ((w.serve p.request).run hw).2
    have hanswers : (answers w.handler (p :: rest)).run hw =
        ((p, some ((w.serve p.request).run hw).1) ::
            ((answers w.handler rest).run ((w.serve p.request).run hw).2).1,
          ((answers w.handler rest).run ((w.serve p.request).run hw).2).2) := by
      unfold answers
      rw [List.mapM_cons]
      rfl
    have hone : (w.oneByOne (p :: rest)).run hw =
        (((w.serve p.request).run hw).1 ::
            ((w.oneByOne rest).run ((w.serve p.request).run hw).2).1,
          ((w.oneByOne rest).run ((w.serve p.request).run hw).2).2) := by
      unfold oneByOne
      rw [List.mapM_cons]
      rfl
    rw [hanswers, hone]
    exact ⟨congrArg (_ :: ·) hresults, hbench⟩

/-- A request is answered by what comes of its access. -/
theorem outcome_serve (w : Worker ρ α σ) (request : ρ) (hw : Hardware) :
    ∃ found, Outcome (w.access request) hw found ((w.serve request).run hw).2 ∧
      ((w.serve request).run hw).1 = w.result request found := by
  rw [run_serve]
  exact ⟨_, outcome_attempt (shown_of_made (w.made request)) hw, rfl⟩

/-- However a run cuts the requests into batches, they are answered as if one by one. -/
theorem Run.sequential (run : w.Run hw history hw') : w.Sequential hw history hw' := by
  obtain ⟨hsystem, hundisturbed⟩ := run.system
  have hsequence := hsystem.inSequence hundisturbed
  -- The handler works on the bench without requests, and does the same on the bench itself.
  have hanswers (batch : List (Pending Nat ρ)) (hw : Hardware) :=
    w.run_withPipeline hw (w.confined_answers batch) {}
  have hall : ((answers w.handler ((answered history).map Prod.fst)).run (w.withPipeline hw {})) =
      (answered history, w.withPipeline hw' {}) := hsequence.one_by_one
  rw [hanswers] at hall
  obtain ⟨hresults, hbench⟩ := Prod.mk.inj hall
  constructor
  · exact hsequence.in_order
  · exact fun hidle hphase => outstanding_eq_nil hidle hphase
  · rw [← (run_answers w _ hw).1, hresults]
  · rw [← (run_answers w _ hw).2, ← w.withPipeline_withPipeline _ {}, hbench,
      withPipeline_withPipeline, withPipeline_pipeline]
  · exact hsequence.received
  · intro before a after ha
    obtain ⟨hanswer, hafter⟩ := hsequence.split ha
    have hbefore : ((answers w.handler (before.map Prod.fst)).run (w.system hw).world).2 =
        w.withPipeline ((w.oneByOne (before.map Prod.fst)).run hw).2 {} := by
      rw [← (run_answers w _ hw).2]
      exact congrArg Prod.snd (hanswers _ hw)
    rw [hbefore, w.run_withPipeline _ (w.confined_answer _), run_answer] at hanswer hafter
    generalize ((w.oneByOne (before.map Prod.fst)).run hw).2 = mid at *
    obtain ⟨found, houtcome, hresult⟩ := w.outcome_serve a.1.request mid
    refine ⟨found, _, houtcome, ?_, ?_⟩
    · rw [← hanswer, ← hresult]
    · rw [← (run_answers w _ _).1]
      rw [hanswers] at hafter
      rw [(Prod.mk.inj hafter).1]

/-- Each answer in sequence says what came of an access. -/
theorem Sequential.outcome (h : w.Sequential hw history hw') {a : Pending Nat ρ × Option σ}
    (ha : a ∈ answered history) : ∃ start found mid,
      Outcome (w.access a.1.request) start found mid ∧ a.2 = some (w.result a.1.request found) := by
  obtain ⟨before, after, hsplit⟩ := List.append_of_mem ha
  obtain ⟨found, mid, houtcome, hresult, -⟩ := h.apart before a after hsplit
  exact ⟨_, found, mid, houtcome, hresult⟩

/-- Batching does not show. However requests are cut into batches, the results and the bench are
those of answering them one by one in the order of submission. Each result repeats the number of its
request, and the result of a get has a value exactly if it says that all went well. -/
theorem sequential_of_run :
    (∀ {hw hw' : Hardware} {history : List (Happening Nat SetRequest SetResult)},
      sets.Run hw history hw' → sets.Sequential hw history hw' ∧
        ∀ a ∈ answered history, ∃ result, a.2 = some result ∧ result.id = a.1.request.id) ∧
    ∀ {hw hw' : Hardware} {history : List (Happening Nat GetRequest GetResult)},
      gets.Run hw history hw' → gets.Sequential hw history hw' ∧
        ∀ a ∈ answered history, ∃ result, a.2 = some result ∧ result.id = a.1.request.id ∧
          (result.value.isSome = true ↔ result.status = .ok) := by
  refine ⟨fun run => ⟨run.sequential, fun a ha => ?_⟩, fun run => ⟨run.sequential, fun a ha => ?_⟩⟩
  · obtain ⟨start, found, mid, -, hresult⟩ := run.sequential.outcome ha
    exact ⟨_, hresult, rfl⟩
  · obtain ⟨start, found, mid, houtcome, hresult⟩ := run.sequential.outcome ha
    refine ⟨_, hresult, rfl, ?_⟩
    cases houtcome with
    | done h => exact iff_of_true rfl rfl
    | failed h hcode => exact iff_of_false nofun hcode
    | crashed h => exact iff_of_false nofun nofun

/-- A bench with two numbers, on which a listener goes down on one of them. -/
def watched : Hardware :=
  { ofDeclarations [{ config := { prop := 5, type := .int32 }, initial := { int32s := [1] } },
      { config := { prop := 6, type := .int32 } }] [] (.ticking 2000000) with
    changeListener := some { name := "watch", fallsOver := .ofProperty? (some 6) } }

/-- Requests to set both numbers and one that is not there. -/
def settings : List SetRequest :=
  [{ id := 1, value := { prop := 5, payload := { int32s := [7] } } },
    { id := 2, value := { prop := 6, payload := { int32s := [7] } } },
    { id := 3, value := { prop := 7, payload := { int32s := [7] } } }]

/-- Requests for a number and for one that is not there. -/
def questions : List GetRequest :=
  [{ id := 1, value := { prop := 5 } }, { id := 2, value := { prop := 7 } }]

/-- The numbers are set twice, the second time submitted while the first requests are under way; and
two gets are answered. -/
theorem sequential_of_watched :
    (∃ history hw', sets.Run watched history hw' ∧
      (answered history).map (fun a => a.2.map SetResult.status) =
        [some .ok, some .internalError, some .invalidArg, some .ok, some .ok, some .invalidArg] ∧
      sets.Sequential watched history hw') ∧
    ∃ history hw', gets.Run watched history hw' ∧
      (answered history).map (fun a => a.2.map GetResult.status) = [some .ok, some .invalidArg] ∧
      gets.Sequential watched history hw' := by
  constructor
  · have submitted := ((Run.start watched).next (step_submitSets _ 0 settings)).next (.wake rfl)
    have taken := (submitted.next (.take rfl rfl)).next (step_submitSets _ 0 settings)
    have answered := taken.next (.resolve rfl (.refl _))
    have woken := answered.next (.wake (by rw [pipeline_resolve]; rfl))
    have last := (woken.next (.take rfl rfl)).next (.resolve rfl (.refl _))
    refine ⟨_, _, last, ?_, (sequential_of_run.1 last).1⟩
    decide +kernel
  · have submitted := ((Run.start watched).next (step_submitGets _ 0 questions)).next (.wake rfl)
    have last := (submitted.next (.take rfl rfl)).next (.resolve rfl (.refl _))
    refine ⟨_, _, last, ?_, (sequential_of_run.2 last).1⟩
    decide +kernel

end Worker

end BenchVehicle
