import BenchVehicle.Proofs.Hardware.Surroundings
import BenchVehicle.Proofs.Request.Sequence

/-!
# The workers of a bench

One worker answers the requests for values and one the requests to set values, each from a pipeline
of its own. Their requests ask for accesses, which have nothing to do with the pipelines. A bench on
which one worker works is therefore a pipeline, and a world that the handler of the pipeline works
on.
-/

namespace BenchVehicle

open Op Hardware

variable {ρ α σ : Type}

/-- What comes of an access for a client, and the bench that it leaves: it is done, or it fails with
a code that says so, or a listener takes it along. -/
inductive Outcome (op : Op α) (hw : Hardware) : Except StatusCode α → Hardware → Prop where
  /-- It is done. -/
  | done {a : α} {hw' : Hardware} (h : op hw = .ok a hw') : Outcome op hw (.ok a) hw'
  /-- It fails. -/
  | failed {e : Failure} {hw' : Hardware} (h : op hw = .error (.failed e) hw')
      (hcode : e.code ≠ .ok) : Outcome op hw (.error e.code) hw'
  /-- A listener goes down. -/
  | crashed {hw' : Hardware} (h : op hw = .error .crashed hw') :
      Outcome op hw (.error .internalError) hw'

/-- What an attempt finds is what came of the access. -/
theorem outcome_attempt {op : Op α} (hop : op.Shown) (hw : Hardware) :
    Outcome op hw (op.attempt hw).1 (op.attempt hw).2 := by
  unfold attempt
  cases h : op hw with
  | ok a hw' => exact .done h
  | error e hw' =>
    cases e with
    | failed e => exact .failed h (hop hw e hw' h)
    | crashed => exact .crashed h

/-- The code for what came of an access. -/
def codeOf : Except StatusCode α → StatusCode
  | .ok _ => .ok
  | .error code => code

/-- A worker of a bench: where its pipeline is, and how it answers. -/
structure Worker (ρ α σ : Type) where
  /-- Its pipeline. -/
  requests : Surroundings → Pipeline Nat ρ
  /-- Puts a pipeline in the place of its own. -/
  put : Pipeline Nat ρ → Surroundings → Surroundings
  /-- The access that a request asks for. -/
  access : ρ → Op α
  /-- The result of a request, given what came of the access. -/
  result : ρ → Except StatusCode α → σ
  /-- The answer to a request. -/
  serve : ρ → StateM Hardware σ
  /-- What was put there is there. -/
  requests_put : ∀ p s, requests (put p s) = p
  /-- Only the last one that was put there is there. -/
  put_put : ∀ p q s, put p (put q s) = put p s
  /-- The one that is there may be put there. -/
  put_requests : ∀ s, put (requests s) s = s
  /-- Accesses are made of the steps of gets and sets. -/
  made : ∀ request, Made AccessStep (access request)
  /-- Requests are answered by the access that they ask for. -/
  serve_eq : ∀ request, serve request = do return result request (← (access request).attempt)

namespace Worker

/-- The worker for requests to set values. -/
def sets : Worker SetRequest Unit SetResult where
  requests s := s.sets
  put p s := { s with sets := p }
  access request := setForClient request.value
  result request found := { id := request.id, status := codeOf found }
  serve := serveSet
  requests_put _ _ := rfl
  put_put _ _ _ := rfl
  put_requests _ := rfl
  made request := made_setForClient request.value
  serve_eq _ := bind_congr fun found => by cases found <;> rfl

/-- The worker for requests for values. -/
def gets : Worker GetRequest PropertyValue GetResult where
  requests s := s.gets
  put p s := { s with gets := p }
  access request := getForClient request.value
  result request found := { id := request.id, status := codeOf found, value := found.toOption }
  serve := serveGet
  requests_put _ _ := rfl
  put_put _ _ _ := rfl
  put_requests _ := rfl
  made request := made_getForClient request.value
  serve_eq _ := bind_congr fun found => by cases found <;> rfl

variable (w : Worker ρ α σ) (hw : Hardware)

/-- The pipeline of the worker on a bench. -/
def pipeline : Pipeline Nat ρ := w.requests hw.surroundings

/-- The bench with another pipeline of the worker. -/
def withPipeline (p : Pipeline Nat ρ) : Hardware := hw.within (w.put p hw.surroundings)

/-- How the worker comes to the results of its requests. -/
def handler : Handler Hardware ρ σ where
  handle request := return some (← w.serve request)

/-- A bench with another pipeline has that pipeline. -/
@[simp] theorem pipeline_withPipeline (p : Pipeline Nat ρ) :
    w.pipeline (w.withPipeline hw p) = p := w.requests_put p hw.surroundings

/-- The pipeline that is put in last counts. -/
@[simp] theorem withPipeline_withPipeline (p q : Pipeline Nat ρ) :
    w.withPipeline (w.withPipeline hw p) q = w.withPipeline hw q :=
  congrArg hw.within (w.put_put q p hw.surroundings)

/-- A bench with its own pipeline is that bench. -/
@[simp] theorem withPipeline_pipeline : w.withPipeline hw (w.pipeline hw) = hw :=
  congrArg hw.within (w.put_requests hw.surroundings)

/-! ## Answers -/

/-- A request is answered with the result of its access, on the bench that the access leaves. -/
theorem run_serve (request : ρ) :
    (w.serve request).run hw =
      (w.result request ((w.access request).attempt hw).1, ((w.access request).attempt hw).2) := by
  rw [w.serve_eq]
  rfl

/-- The handler of the pipeline answers as the worker serves. -/
theorem run_answer (request : ρ) :
    (w.handler.answer request).run hw =
      (some ((w.serve request).run hw).1, ((w.serve request).run hw).2) := rfl

/-- Answering a request leaves the pipelines alone. -/
theorem confined_answer (request : ρ) : ConfinedState (w.handler.answer request) := by
  have hserve : ConfinedState (w.serve request) := by
    rw [w.serve_eq]
    exact (confined_of_made (w.made request)).attempt.bind fun _ => confinedState_pure _
  have hhandle : ConfinedState (w.handler.handle request) :=
    hserve.bind fun _ => confinedState_pure _
  exact hhandle.bind fun _ => confinedState_pure _

/-- Answering a batch leaves the pipelines alone. -/
theorem confined_answers (batch : List (Pending Nat ρ)) :
    ConfinedState (Pipeline.answers w.handler batch) := by
  refine confinedState_mapM (fun p => ?_) batch
  exact (w.confined_answer p.request).bind fun _ => confinedState_pure _

/-- What has nothing to do with the surroundings does the same with another pipeline. -/
theorem run_withPipeline {β : Type} {c : StateM Hardware β} (hc : ConfinedState c)
    (p : Pipeline Nat ρ) :
    c.run (w.withPipeline hw p) = ((c.run hw).1, w.withPipeline (c.run hw).2 p) := by
  have hkept : (c.run hw).2.surroundings = hw.surroundings := hc.surroundings hw
  unfold withPipeline
  rw [hkept]
  exact hc hw (w.put p hw.surroundings)

/-- The pipeline stays as it is while a batch is resolved. -/
theorem pipeline_resolve (batch : List (Pending Nat ρ)) (p : Pipeline Nat ρ) :
    w.pipeline ((Pending.resolve w.handler.answer batch).run (w.withPipeline hw p)).2 = p := by
  rw [w.run_withPipeline hw (confinedState_resolve w.confined_answer batch)]
  exact w.pipeline_withPipeline _ p

/-! ## Steps -/

open Pipeline

/-- The steps in which requests come in and are answered. -/
inductive Step (w : Worker ρ α σ) : Hardware → Happening Nat ρ σ → Hardware → Prop where
  /-- A caller submits requests. -/
  | submit (hw : Hardware) (caller : Nat) (requests : List ρ) :
      Step w hw (.submitted caller requests ((w.pipeline hw).submit caller requests).1)
        (w.withPipeline hw ((w.pipeline hw).submit caller requests).2)
  /-- The worker stops waiting. -/
  | wake {hw : Hardware} {p : Pipeline Nat ρ} (h : (w.pipeline hw).wake? = some p) :
      Step w hw .woken (w.withPipeline hw p)
  /-- The worker takes a batch. -/
  | take {hw : Hardware} {p : Pipeline Nat ρ} {batch : List (Pending Nat ρ)}
      (h : (w.pipeline hw).take? = some p) (hb : p.phase = .resolving batch) :
      Step w hw (.taken batch) (w.withPipeline hw p)
  /-- The worker answers the requests of its batch and hands out the results. -/
  | resolve {hw : Hardware} {p : Pipeline Nat ρ} {batch : List (Pending Nat ρ)}
      {deliveries : List (Delivery Nat σ)} (h : (w.pipeline hw).finish? = some (batch, p))
      (hd : deliveries.Perm
        ((Pending.resolve w.handler.answer batch).run (w.withPipeline hw p)).1) :
      Step w hw
        (.resolved ((answers w.handler batch).run (w.withPipeline hw p)).1 deliveries)
        ((Pending.resolve w.handler.answer batch).run (w.withPipeline hw p)).2

/-- Runs of such steps, with what happened in them. -/
inductive Run (w : Worker ρ α σ) : Hardware → List (Happening Nat ρ σ) → Hardware → Prop where
  | start (hw : Hardware) : Run w hw [] hw
  | next {hw mid hw' : Hardware} {history : List (Happening Nat ρ σ)} {event : Happening Nat ρ σ}
      (before : Run w hw history mid) (step : Step w mid event hw') :
      Run w hw (history ++ [event]) hw'

/-- The bench as the pipeline of the worker, and the rest. -/
def system : System Hardware Nat ρ := { pipeline := w.pipeline hw, world := w.withPipeline hw {} }

variable {w} {hw}

/-- Another pipeline on the bench is another pipeline of the system. -/
theorem system_withPipeline (p : Pipeline Nat ρ) :
    w.system (w.withPipeline hw p) = { w.system hw with pipeline := p } := by
  simp [system]

/-- A step of the bench is one of the pipeline. -/
theorem Step.system {hw' : Hardware} {event : Happening Nat ρ σ} (step : w.Step hw event hw') :
    Pipeline.Step w.handler (w.system hw) event (w.system hw') ∧ event ≠ .disturbed := by
  cases step with
  | submit caller requests =>
    rw [system_withPipeline]
    exact ⟨.submit (w.system hw) caller requests, nofun⟩
  | wake h =>
    rw [system_withPipeline]
    exact ⟨.wake h, nofun⟩
  | take h hb =>
    rw [system_withPipeline]
    exact ⟨.take h hb, nofun⟩
  | @resolve p batch deliveries h hd =>
    have hresolve : ConfinedState (Pending.resolve w.handler.answer batch) :=
      confinedState_resolve w.confined_answer batch
    -- What the batch comes to does not depend on the pipeline that is there meanwhile.
    have hanswers (q : Pipeline Nat ρ) := w.run_withPipeline hw (w.confined_answers batch) q
    have hdone (q : Pipeline Nat ρ) := w.run_withPipeline hw hresolve q
    have hworld : w.system ((Pending.resolve w.handler.answer batch).run (w.withPipeline hw p)).2 =
        { pipeline := p
          world := ((Pending.resolve w.handler.answer batch).run (w.withPipeline hw {})).2 } := by
      rw [hdone, hdone, system_withPipeline]
      rfl
    rw [hdone] at hd
    rw [hworld, hanswers]
    have hd' : deliveries.Perm
        ((Pending.resolve w.handler.answer batch).run (w.withPipeline hw {})).1 := by
      rw [hdone]
      exact hd
    have hstart : (w.system hw).world = w.withPipeline hw {} := rfl
    have hstep := Pipeline.Step.resolve (s := w.system hw) h hd'
    rw [hstart, hanswers] at hstep
    exact ⟨hstep, nofun⟩

/-- A run of the worker is a run of its pipeline in which no handler goes down. -/
theorem Run.system {hw' : Hardware} {history : List (Happening Nat ρ σ)}
    (run : w.Run hw history hw') :
    Pipeline.Run w.handler (w.system hw) history (w.system hw') ∧ .disturbed ∉ history := by
  induction run with
  | start => exact ⟨.start _, nofun⟩
  | next _ step ih =>
    obtain ⟨hstep, hevent⟩ := step.system
    refine ⟨ih.1.next hstep, ?_⟩
    rw [List.mem_append, List.mem_singleton, not_or]
    exact ⟨ih.2, hevent.symm⟩

/-! ## Operations -/

/-- Waking the worker is a run in which nothing is delivered. -/
theorem run_wake (w : Worker ρ α σ) (hw : Hardware) :
    ∃ history, w.Run hw history
        (w.withPipeline hw ((w.pipeline hw).wake?.getD (w.pipeline hw))) ∧
      delivered history = [] := by
  cases h : (w.pipeline hw).wake? with
  | none =>
    rw [Option.getD_none, withPipeline_pipeline]
    exact ⟨[], .start hw, rfl⟩
  | some p => exact ⟨_, (Run.start hw).next (.wake h), rfl⟩

/-- Going on to the next batch is a run in which nothing is delivered. -/
theorem run_advance (w : Worker ρ α σ) (hw : Hardware) :
    ∃ history, w.Run hw history (w.withPipeline hw (w.pipeline hw).advance) ∧
      delivered history = [] := by
  obtain ⟨history, run, hsilent⟩ := w.run_wake hw
  have hadvance : (w.pipeline hw).advance =
      ((w.pipeline hw).wake?.getD (w.pipeline hw)).take?.getD
        ((w.pipeline hw).wake?.getD (w.pipeline hw)) := rfl
  rw [hadvance]
  generalize (w.pipeline hw).wake?.getD (w.pipeline hw) = woken at run ⊢
  cases htake : woken.take? with
  | none => exact ⟨history, run, hsilent⟩
  | some p =>
    obtain ⟨-, hp⟩ := take?_eq_some htake
    rw [← w.pipeline_withPipeline hw woken] at htake
    have hstep := Step.take htake (congrArg Pipeline.phase hp)
    rw [withPipeline_withPipeline] at hstep
    refine ⟨_, run.next hstep, ?_⟩
    rw [delivered_append, hsilent]
    rfl

/-- A worker that goes on and finds a batch answers it. -/
theorem run_of_batch {batch : List (Pending Nat ρ)} {p : Pipeline Nat ρ}
    (h : (w.pipeline hw).advance.finish? = some (batch, p)) :
    let resolved := (Pending.resolve w.handler.answer batch).run (w.withPipeline hw p)
    ∃ history, w.Run hw history resolved.2 ∧ delivered history = resolved.1 := by
  obtain ⟨history, run, hsilent⟩ := w.run_advance hw
  rw [← w.pipeline_withPipeline hw (w.pipeline hw).advance] at h
  have hstep := Step.resolve h (List.Perm.refl _)
  rw [withPipeline_withPipeline] at hstep
  refine ⟨_, run.next hstep, ?_⟩
  rw [delivered_append, hsilent, delivered_resolved, List.nil_append]

/-- Runs follow one another. -/
theorem Run.append {mid hw' : Hardware} {history later : List (Happening Nat ρ σ)}
    (run : w.Run hw history mid) (after : w.Run mid later hw') :
    w.Run hw (history ++ later) hw' := by
  induction after with
  | start => rwa [List.append_nil]
  | next _ step ih =>
    rw [← List.append_assoc]
    exact ih.next step

/-- Operations that are runs, one after the other, are one run. -/
theorem run_of_operations {operations : List Operation}
    (h : ∀ o ∈ operations, ∀ hw, ∃ history, w.Run hw history (hw.after o)) (hw : Hardware) :
    ∃ history, w.Run hw history (hw.run operations) := by
  induction operations generalizing hw with
  | nil => exact ⟨[], .start hw⟩
  | cons o rest ih =>
    obtain ⟨first, hfirst⟩ := h o List.mem_cons_self hw
    obtain ⟨later, hlater⟩ := ih (fun o ho => h o (List.mem_cons_of_mem _ ho)) (hw.after o)
    exact ⟨first ++ later, hfirst.append hlater⟩

/-- A submission is a step. -/
theorem step_submitSets (hw : Hardware) (caller : Nat) (requests : List SetRequest) :
    sets.Step hw (.submitted caller requests (hw.sets.submit caller requests).1)
      (hw.after (.submitSets caller requests)) := .submit hw caller requests

/-- To submit gets is a step of their worker. -/
theorem step_submitGets (hw : Hardware) (caller : Nat) (requests : List GetRequest) :
    gets.Step hw (.submitted caller requests (hw.gets.submit caller requests).1)
      (hw.after (.submitGets caller requests)) := .submit hw caller requests

/-- A pass of a worker is a run. -/
theorem run_workSets (hw : Hardware) :
    ∃ history, sets.Run hw history (hw.after .workSets) ∧
      delivered history = (workSets hw).1 := by
  have hafter : hw.after .workSets = (workSets hw).2 := rfl
  rw [hafter]
  cases h : hw.sets.advance.finish? with
  | none =>
    rw [workSets_of_none h]
    exact ⟨[], .start hw, rfl⟩
  | some r =>
    rw [workSets_of_some h]
    exact run_of_batch (w := sets) h

/-- A batch of gets is a run of their worker, which delivers the results. -/
theorem run_workGets (hw : Hardware) :
    ∃ history, gets.Run hw history (hw.after .workGets) ∧
      delivered history = (workGets hw).1 := by
  have hafter : hw.after .workGets = (workGets hw).2 := rfl
  rw [hafter]
  cases h : hw.gets.advance.finish? with
  | none =>
    rw [workGets_of_none h]
    exact ⟨[], .start hw, rfl⟩
  | some r =>
    rw [workGets_of_some h]
    exact run_of_batch (w := gets) h

/-- Submissions of requests and passes of their worker, in any order, are a run. -/
theorem run_of_setting {operations : List Operation} (h : ∀ o ∈ operations,
    o = .workSets ∨ ∃ caller requests, o = .submitSets caller requests) (hw : Hardware) :
    ∃ history, sets.Run hw history (hw.run operations) := by
  refine run_of_operations (fun o ho hw => ?_) hw
  rcases h o ho with rfl | ⟨caller, requests, rfl⟩
  · obtain ⟨history, run, -⟩ := run_workSets hw
    exact ⟨history, run⟩
  · exact ⟨_, (Run.start hw).next (step_submitSets hw caller requests)⟩

/-- Gets that are submitted and worked on are a run of their worker. -/
theorem run_of_getting {operations : List Operation} (h : ∀ o ∈ operations,
    o = .workGets ∨ ∃ caller requests, o = .submitGets caller requests) (hw : Hardware) :
    ∃ history, gets.Run hw history (hw.run operations) := by
  refine run_of_operations (fun o ho hw => ?_) hw
  rcases h o ho with rfl | ⟨caller, requests, rfl⟩
  · obtain ⟨history, run, -⟩ := run_workGets hw
    exact ⟨history, run⟩
  · exact ⟨_, (Run.start hw).next (step_submitGets hw caller requests)⟩

end Worker

end BenchVehicle
