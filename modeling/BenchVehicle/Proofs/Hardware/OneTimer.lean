import BenchVehicle.Proofs.Hardware.Coherence
import BenchVehicle.Proofs.Hardware.Moves
import BenchVehicle.Proofs.Hardware.SampleRate

/-!
# One timer action for each key

Sampling and the generators each keep a map from keys to timer handles beside the timer itself. The
two stay in step whatever happens: replacing an action drops the old one first, a refused one leaves
nothing behind, and stopping empties both. So nothing is ever sampled or generated twice, and nothing
that the maps have forgotten.
-/

namespace BenchVehicle

namespace Sampler

variable {s : Sampler}

/-- That the timer samples exactly the instances that have a handle. -/
def Paired (s : Sampler) : Prop := Timer.Paired s.timer s.actions.get? s.nextHandle

/-- An instance that is dropped leaves the handles and the timer in step. -/
theorem Paired.drop (h : s.Paired) (key : PropertyKey) : (s.drop key).Paired := by
  unfold Sampler.drop
  cases hkey : s.actions.get? key with
  | none => exact h
  | some handle =>
    have herased : (s.actions.erase key).get? = fun k => if k = key then none else s.actions.get? k :=
      funext fun k => s.actions.get?_erase key k
    unfold Paired
    dsimp only
    rw [herased]
    exact Timer.Paired.drop h hkey

/-- An instance that is to be sampled leaves the handles and the timer in step. -/
theorem Paired.start (h : s.Paired) (now : Int64) (key : PropertyKey) (interval : Int64) :
    (s.start now key interval).2.Paired := by
  have hdropped : (s.drop key).Paired := h.drop key
  have hfree : (s.drop key).actions.get? key = none := (get?_drop s key).1
  unfold Sampler.start
  dsimp only
  split
  · next haccepted =>
    have hinserted : ((s.drop key).actions.insert key (s.drop key).nextHandle).get? = fun k =>
        if k = key then some (s.drop key).nextHandle else (s.drop key).actions.get? k :=
      funext fun k => (s.drop key).actions.get?_insert key k _
    unfold Paired
    dsimp only
    rw [hinserted]
    exact Timer.Paired.register hdropped hfree haccepted
  · next hrefused =>
    rcases Timer.register_cases (s.drop key).timer now (s.drop key).nextHandle interval key with
      ⟨heq, -⟩ | ⟨-, -, heq⟩
    · rw [heq]
      exact hdropped
    · rw [heq] at hrefused
      exact absurd rfl hrefused

/-- Every change of sampling leaves the handles and the timer in step. -/
theorem Move.paired {s' : Sampler} (h : s.Move s') (hs : s.Paired) : s'.Paired := by
  cases h with
  | dropped key => exact hs.drop key
  | started now key interval => exact hs.start now key interval
  | stopped => exact Timer.paired_stop _
  | turned hturned => exact Timer.Paired.turned hs hturned

end Sampler

namespace GeneratorHub

variable {h : GeneratorHub}

/-- The timer handle of the generator of an id. -/
def handle? (h : GeneratorHub) (id : Int32) : Option Nat := (h.sources.get? id).map Source.handle

/-- That the timer drives exactly the generators that there are. -/
def Paired (h : GeneratorHub) : Prop := Timer.Paired h.timer h.handle? h.nextHandle

/-- A generator that is dropped leaves the handles and the timer in step. -/
theorem Paired.drop (hp : h.Paired) (id : Int32) : (h.drop id).Paired := by
  unfold GeneratorHub.drop
  cases hid : h.sources.get? id with
  | none => exact hp
  | some source =>
    have hhandle : h.handle? id = some source.handle := by rw [handle?, hid, Option.map_some]
    have herased : handle? { h with
        timer := h.timer.unregister source.handle, sources := h.sources.erase id } =
        fun k => if k = id then none else h.handle? k := by
      funext k
      dsimp only [handle?]
      rw [SortedMap.get?_erase]
      split <;> rfl
    unfold Paired
    rw [herased]
    exact Timer.Paired.drop hp hhandle

/-- A generator that is dropped has no handle. -/
theorem handle?_drop (h : GeneratorHub) (id : Int32) : (h.drop id).handle? id = none := by
  unfold handle? GeneratorHub.drop
  cases hid : h.sources.get? id with
  | none => rw [hid, Option.map_none]
  | some source => simp [SortedMap.get?_erase]

/-- A generator that is to run leaves the handles and the timer in step. -/
theorem Paired.register (hp : h.Paired) (now : Int64) (id : Int32) (generator : Generator) :
    (h.register now id generator).2.Paired := by
  unfold GeneratorHub.register
  split
  · exact hp
  have hdropped : (h.drop id).Paired := hp.drop id
  dsimp only
  split
  · next haccepted =>
    unfold Paired
    have hinserted (timer : Timer Int32) (next : Nat) : handle? { h.drop id with
        timer
        sources := (h.drop id).sources.insert id { handle := (h.drop id).nextHandle, generator }
        nextHandle := next } =
        fun k => if k = id then some (h.drop id).nextHandle else (h.drop id).handle? k := by
      funext k
      dsimp only [handle?]
      rw [SortedMap.get?_insert]
      split <;> rfl
    rw [hinserted]
    exact Timer.Paired.register hdropped (h.handle?_drop id) haccepted
  · next hrefused =>
    rcases Timer.register_cases (h.drop id).timer now (h.drop id).nextHandle generator.interval id with
      ⟨heq, -⟩ | ⟨-, -, heq⟩
    · rw [heq]
      exact hdropped
    · rw [heq] at hrefused
      exact absurd rfl hrefused

/-- Every change of the generators leaves the handles and the timer in step. -/
theorem Move.paired {h' : GeneratorHub} (hm : h.Move h') (hp : h.Paired) : h'.Paired := by
  cases hm with
  | dropped id => exact hp.drop id
  | registered now id generator => exact hp.register now id generator
  | stopped => exact Timer.paired_stop _
  | turned hturned => exact Timer.Paired.turned hp hturned
  | @advanced id source hsource generator =>
    have hsame : handle? { h with sources := h.sources.insert id { source with generator } } =
        h.handle? := by
      funext k
      dsimp only [handle?]
      rw [SortedMap.get?_insert]
      split
      · next hk => rw [hk, hsource, Option.map_some, Option.map_some]
      · rfl
    unfold Paired
    rw [hsame]
    exact hp

/-- A generator that is dropped does not stop the timer. -/
theorem stopped_drop (h : GeneratorHub) (id : Int32) :
    (h.drop id).timer.stopped = h.timer.stopped := by
  unfold drop
  split
  · exact Timer.stopped_unregister _ _
  · rfl

/-- A hub that was stopped has no generator that could be dropped. -/
theorem Paired.drop_of_stopped (hp : h.Paired) (hstopped : h.timer.stopped = true) (id : Int32) :
    h.drop id = h := by
  have hnone : h.sources.get? id = none := by
    cases hid : h.sources.get? id with
    | none => rfl
    | some source =>
      have hhandle : h.handle? id = some source.handle := by rw [handle?, hid, Option.map_some]
      obtain ⟨r, hr, -⟩ := (hp.owned id source.handle).mp hhandle
      rw [hp.stopped hstopped source.handle] at hr
      cases hr
  unfold GeneratorHub.drop
  rw [hnone]

/-- A generator that is refused changes nothing: either its interval is out of range, or the hub
was stopped and has no generators. -/
theorem Paired.register_refused (hp : h.Paired) {now : Int64} {id : Int32} {generator : Generator}
    (hrefused : (h.register now id generator).1 = false) :
    (h.register now id generator).2 = h := by
  unfold GeneratorHub.register at hrefused ⊢
  split
  · rfl
  next hschedulable =>
  rw [if_neg hschedulable] at hrefused
  dsimp only at hrefused ⊢
  rcases Timer.register_cases (h.drop id).timer now (h.drop id).nextHandle generator.interval id with
    ⟨heq, hnot | hstopped⟩ | ⟨-, -, heq⟩
  · rw [hnot] at hschedulable
    exact absurd rfl hschedulable
  · rw [stopped_drop] at hstopped
    rw [heq, hp.drop_of_stopped hstopped]
    rfl
  · rw [heq] at hrefused
    cases hrefused

end GeneratorHub

namespace Hardware

/-! ## Histories -/

/-- That both timers do something for exactly the keys that the maps know. -/
def Paired (s : Surroundings) : Prop := s.sampler.Paired ∧ s.hub.Paired

/-- Every change of the surroundings leaves both timers in step. -/
theorem paired_of_move {named : PropertyKey → Prop} {s s' : Surroundings} (h : s.Move named s')
    (hp : Paired s) : Paired s' := by
  cases h with
  | sampler hmove => exact ⟨hmove.paired hp.1, hp.2⟩
  | hub hmove => exact ⟨hp.1, hmove.paired hp.2⟩
  | saved | taken | gets | sets => exact hp

/-- Every history leaves both timers in step. -/
theorem paired_run {hw : Hardware} (hp : Paired hw.surroundings) (history : List Operation) :
    Paired (hw.run history).surroundings := by
  induction history generalizing hw with
  | nil => exact hp
  | cons o rest ih => exact ih ((moves_after hw o).keeps (fun _ _ => paired_of_move) hp)

/-- On every bench that comes about both timers are in step. -/
theorem Reachable.paired {hw : Hardware} (h : Reachable hw) : Paired hw.surroundings := by
  obtain ⟨declarations, overrides, clock, pool, history, rfl⟩ := h
  refine paired_run ?_ history
  rw [surroundings_ofDeclarations]
  exact ⟨Timer.paired_empty, Timer.paired_empty⟩

/-- Whatever happens to a bench, its timers do something for exactly the keys that have a handle, and
once for each: for the instances that are sampled, and for the generators that there are. A
generator that is refused leaves all generators as they are. -/
theorem one_timer_for_each {hw : Hardware} (h : Reachable hw) :
    hw.sampler.timer.OneForEach hw.sampler.actions.get? ∧
      hw.hub.timer.OneForEach hw.hub.handle? ∧
      ∀ id generator, (Hardware.startGenerator id generator hw).1 = false →
        (Hardware.startGenerator id generator hw).2.hub = hw.hub := by
  obtain ⟨hsampler, hhub⟩ := h.paired
  have hrefused (id : Int32) (generator : Generator)
      (hfalse : (Hardware.startGenerator id generator hw).1 = false) :
      (Hardware.startGenerator id generator hw).2.hub = hw.hub := hhub.register_refused hfalse
  exact ⟨Timer.Paired.oneForEach hsampler, Timer.Paired.oneForEach hhub, hrefused⟩

/-- An instance is sampled, then another, then the first one at another rate; the other gets the one
rate that is refused when it has been dropped; and a generator runs. -/
def rated : Hardware :=
  (ofDeclarations [] [] (.ticking 2000001)).run
    [.setRate ⟨5, 0⟩ ⟨false, 0x447A0000⟩, .setRate ⟨6, 0⟩ ⟨false, 0x447A0000⟩,
      .setRate ⟨5, 0⟩ ⟨false, 0x3A83126F⟩, .setRate ⟨6, 0⟩ Sampler.Rate.slowest,
      .startGenerator 7 (.replay [] 1000000)]

/-- Of two sampled instances one is left, at its new rate, beside the generator. -/
theorem one_timer_for_each_of_rated :
    rated.sampler.actions.toList = [(⟨5, 0⟩, 2)] ∧
      rated.sampler.timer.OneForEach rated.sampler.actions.get? ∧
      rated.hub.handle? 7 = some 0 ∧ rated.hub.timer.OneForEach rated.hub.handle? ∧
      (Hardware.startGenerator 7 (.replay [] 0) rated).1 = false ∧
      (Hardware.startGenerator 7 (.replay [] 0) rated).2.hub = rated.hub := by
  have hrated : Reachable rated := ⟨[], [], .ticking 2000001, {}, _, rfl⟩
  have hrefused : (Hardware.startGenerator 7 (.replay [] 0) rated).1 = false := by decide +kernel
  obtain ⟨hsampler, hhub, hkeeps⟩ := one_timer_for_each hrated
  exact ⟨by decide +kernel, hsampler, by decide +kernel, hhub, hrefused, hkeeps 7 _ hrefused⟩

end Hardware

end BenchVehicle
