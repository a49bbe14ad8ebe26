import BenchVehicle.Proofs.Hardware.Reading

/-!
# The power handshake

A report of the application processor is stored and answered with a request. What was asked before
must not keep the request from being told of: a restarted client that reports again waits for it.
So the request is always told of, whatever its slot held, and however often the same report comes.
-/

namespace BenchVehicle

namespace PowerReport

/-- A report is read from its own number. -/
theorem ofInt32?_toInt32 (report : PowerReport) : ofInt32? report.toInt32 = some report := by
  cases report <;> rfl

/-- A report that is read from a number has that number. -/
theorem toInt32_of_some {n : Int32} {report : PowerReport} (h : ofInt32? n = some report) :
    report.toInt32 = n := by
  unfold ofInt32? at h
  repeat' split at h
  all_goals cases h
  all_goals symm; assumption

end PowerReport

namespace Hardware

open Op Store

variable {hw hw' : Hardware} {v : PropertyValue} {listener : Listener} {state : Int32}
  {readings : Nat}

/-! ## Answers -/

/-- What a reported state is answered with. -/
def asked? (state : Int32) : Option PowerRequest :=
  if [PowerReport.waitForVhal, .deepSleepExit, .hibernationExit, .shutdownCancelled].any
      fun report => report.toInt32 = state then some .on
  else if [PowerReport.deepSleepEntry, .hibernationEntry, .shutdownStart].any
      fun report => report.toInt32 = state then some .finished
  else none

/-- A state that no report has is answered with nothing. -/
theorem asked?_of_unknown (h : ∀ report : PowerReport, report.toInt32 ≠ state) :
    asked? state = none := by simp [asked?, h]

/-- States are answered as they should be. -/
theorem answer_eq (state : Int32) :
    ((PowerReport.ofInt32? state).bind answerTo).map Prod.fst = asked? state := by
  cases h : PowerReport.ofInt32? state with
  | some report =>
    rw [← PowerReport.toInt32_of_some h]
    cases report <;> rfl
  | none =>
    refine (asked?_of_unknown ?_).symm
    rintro report rfl
    rw [PowerReport.ofInt32?_toInt32] at h
    cases h

/-! ## Benches that are ready -/

/-- The two properties of the handshake. -/
def IsPower (prop : Int32) : Prop :=
  prop = PropertyId.apPowerStateReport ∨ prop = PropertyId.apPowerStateReq

/-- The properties of the handshake are not that of kept frames. -/
theorem IsPower.ne {prop : Int32} (h : IsPower prop) : prop ≠ PropertyId.obd2FreezeFrame := by
  rcases h with rfl | rfl <;> decide

/-- A bench on which the handshake can take place, while the clock is read so many times. -/
structure Ready (listener : Listener) (readings : Nat) (hw : Hardware) : Prop where
  /-- Values lie where they belong. -/
  coherent : hw.store.Coherent
  /-- Both properties are global. -/
  global : ∀ prop, IsPower prop → Global hw.store prop
  /-- No value of either is newer than the clock. -/
  past : ∀ prop, IsPower prop → ∀ old, hw.store.stored? ⟨prop, 0⟩ = some old →
    old.timestamp ≤ hw.clock.now
  /-- The clock does not go back. -/
  forward : hw.clock.Forward readings
  /-- Somebody listens. -/
  listening : hw.changeListener = some listener
  /-- Neither property takes the listener down. -/
  stands : ∀ prop, IsPower prop → listener.Stands prop

/-- The clock is read and the pool used. -/
theorem Ready.used (h : Ready listener (readings + 1) hw) (pool : ValuePool) :
    Ready listener readings
      { hw with store := { hw.store with pool }, clock := hw.clock.read.2 } where
  coherent := h.coherent.same (.of_records rfl)
  global := h.global
  past prop hprop old hold := Int64.le_trans (h.past prop hprop old hold) h.forward.now_le
  forward := h.forward.read
  listening := h.listening
  stands := h.stands

/-- A bench need not use a reading of its clock. -/
theorem Ready.of_succ (h : Ready listener (readings + 1) hw) : Ready listener readings hw :=
  { h with forward := h.forward.of_succ }

/-- What was asked is forgotten. -/
theorem Ready.forget (h : Ready listener readings hw) :
    Ready listener readings
      { hw with store := hw.store.removeAll PropertyId.apPowerStateReq } where
  coherent := h.coherent.removeAll _
  global prop hprop := by
    obtain ⟨rules, hrules, hglobal⟩ := h.global prop hprop
    exact ⟨rules, (rules?_removeAll h.coherent.keyed _ prop).trans hrules, hglobal⟩
  past prop hprop old hold := by
    rw [stored?_removeAll h.coherent.keyed] at hold
    split at hold
    · cases hold
    · exact h.past prop hprop old hold
  forward := h.forward
  listening := h.listening
  stands := h.stands

/-- The bench without what was asked before, if that is forgotten. -/
def forgetting (hw : Hardware) : Bool → Hardware
  | true => { hw with store := hw.store.removeAll PropertyId.apPowerStateReq }
  | false => hw

/-- To forget what was asked leaves the report. -/
theorem stored?_forgetting (hk : hw.store.Keyed) (forget : Bool) :
    (hw.forgetting forget).store.stored? ⟨PropertyId.apPowerStateReport, 0⟩ =
      hw.store.stored? ⟨PropertyId.apPowerStateReport, 0⟩ := by
  cases forget with
  | true => exact (stored?_removeAll hk _ _).trans (if_neg (by decide))
  | false => rfl

/-- To forget what was asked tells nobody. -/
theorem events_forgetting (hw : Hardware) (forget : Bool) :
    (hw.forgetting forget).events = hw.events := by cases forget <;> rfl

/-- A bench is as ready when it forgets what was asked. -/
theorem Ready.forgetting (h : Ready listener readings hw) (forget : Bool) :
    Ready listener readings (hw.forgetting forget) := by
  cases forget with
  | true => exact h.forget
  | false => exact h

/-- A value that is not older than the stored one and not newer than the clock is written. -/
theorem Ready.write (h : Ready listener readings hw) (hprop : IsPower v.prop)
    (hpast : ∀ old, hw.store.stored? ⟨v.prop, 0⟩ = some old → old.timestamp ≤ v.timestamp)
    (hnow : v.timestamp ≤ hw.clock.now) (updateStatus : Bool) :
    ∃ t change rules, Hardware.write v updateStatus hw = .ok ()
        { hw with store := t, events := hw.events ++ hw.changeEvents change } ∧
      Written hw.store v updateStatus t change rules ∧ Fits rules ⟨v.prop, 0⟩ v ∧
      Ready listener readings
        { hw with store := t, events := hw.events ++ hw.changeEvents change } := by
  obtain ⟨rules, hrules, hglobal⟩ := h.global v.prop hprop
  have hfits : Fits rules ⟨v.prop, 0⟩ v := h.coherent.fits_global hrules hglobal hprop.ne
  have htakes : hw.store.Takes v := by
    refine (takes_iff_of_fits hrules hfits).mpr ⟨?_, hpast⟩
    rw [PropertyConfig.allows, hglobal]
    rfl
  obtain ⟨t, change, rules', hwrite, hwritten⟩ := write_taken h.coherent.keyed htakes updateStatus
  obtain rfl : rules' = rules := Option.some.inj (hwritten.declared.symm.trans hrules)
  have hlistener (l : Listener) (hl : hw.changeListener = some l) : l.Stands v.prop := by
    rw [h.listening] at hl
    cases hl
    exact h.stands v.prop hprop
  obtain ⟨hw', hok⟩ := write_ok hwrite h.coherent.keyed hlistener
  refine ⟨t, change, rules', ?_, hwritten, hfits, h.coherent.written hwritten,
    fun prop hpower => ?_, fun prop hpower old hold => ?_, h.forward, h.listening, h.stands⟩
  · rw [hok, ← final_of_ok hok, final_write_of_ok hwrite]
  · obtain ⟨r, hr, hrglobal⟩ := h.global prop hpower
    exact ⟨r, (hwritten.rules_eq prop).trans hr, hrglobal⟩
  · by_cases hhere : prop = v.prop
    · subst hhere
      rw [hwritten.stored_eq hfits] at hold
      obtain ⟨status, hsettled⟩ := settled_eq (hw.store.stored? ⟨v.prop, 0⟩) v updateStatus
      rw [hsettled] at hold
      cases hold
      exact hnow
    · rw [hwritten.stored_of_ne hhere] at hold
      exact h.past prop hpower old hold

/-! ## Requests -/

/-- The value that asks for something. -/
def question (request : PowerRequest) (time : Int64) : PropertyValue :=
  { prop := PropertyId.apPowerStateReq, timestamp := time,
    payload := { int32s := [request.toInt32, 0] } }

/-- A value that is written with its status is always told of. -/
theorem isChange_forced (old : Option PropertyValue) (v : PropertyValue) :
    isChange old v true = true := by cases old <;> rfl

/-- The changes of a property among some events. -/
def changesOf (prop : Int32) (events : List Event) : List Event :=
  events.filter fun
    | .change _ v => v.prop = prop
    | .setError .. => false

/-- The changes of a property among later events come after those among earlier ones. -/
theorem changesOf_append (prop : Int32) (events later : List Event) :
    changesOf prop (events ++ later) = changesOf prop events ++ changesOf prop later :=
  List.filter_append ..

/-- The change of another property is none. -/
theorem changesOf_changeEvents {prop : Int32} {change : Option PropertyValue}
    (h : ∀ c, change = some c → c.prop ≠ prop) (hw : Hardware) :
    changesOf prop (hw.changeEvents change) = [] := by
  unfold changeEvents
  split
  · next c _ => simp [changesOf, h c rfl]
  · rfl

/-- A request is stored and always told of. -/
theorem Ready.requestPower (h : Ready listener (readings + 1) hw) (request : PowerRequest) :
    ∃ hw', Hardware.requestPower request hw = .ok () hw' ∧ Ready listener readings hw' ∧
      hw'.store.stored? ⟨PropertyId.apPowerStateReq, 0⟩ = some (question request hw.clock.now) ∧
      hw'.store.stored? ⟨PropertyId.apPowerStateReport, 0⟩ =
        hw.store.stored? ⟨PropertyId.apPowerStateReport, 0⟩ ∧
      hw'.events = hw.events ++ [.change listener.name (question request hw.clock.now)] := by
  have hused := h.used (hw.store.pool.obtain PropertyId.apPowerStateReq 0).2
  obtain ⟨t, change, rules, hwrite, hwritten, hfits, hready⟩ :=
    hused.write (v := question request hw.clock.now) (.inr rfl) (h.past _ (.inr rfl))
      h.forward.now_le true
  have hchange : change = some (question request hw.clock.now) := by
    rw [hwritten.change_of_fits hfits]
    exact if_pos (isChange_forced _ _)
  have hne : PropertyId.apPowerStateReport ≠ PropertyId.apPowerStateReq := by decide
  refine ⟨_, ?_, hready, hwritten.stored_eq hfits, hwritten.stored_of_ne hne, ?_⟩
  · rw [Hardware.requestPower, bind_of_ok (blank_ok _ _ hw), bind_of_ok (now_ok _)]
    exact during_of_ok hwrite _
  · rw [hchange]
    simp only [changeEvents, h.listening]

/-! ## Reports -/

/-- What a report of a state comes to. -/
structure Handshake (listener : Listener) (v : PropertyValue) (state : Int32) (hw hw' : Hardware) :
    Prop where
  /-- The report is stored. -/
  report : ∃ w, hw'.store.stored? ⟨PropertyId.apPowerStateReport, 0⟩ = some w ∧
    w.payload = v.payload
  /-- What the state is answered with is stored, and told of once. -/
  answered : ∀ request, asked? state = some request → ∃ time,
    hw'.store.stored? ⟨PropertyId.apPowerStateReq, 0⟩ = some (question request time) ∧
    changesOf PropertyId.apPowerStateReq hw'.events =
      changesOf PropertyId.apPowerStateReq hw.events ++
        [.change listener.name (question request time)]
  /-- If there is no answer, what was asked before stays and is not told of. -/
  unanswered : asked? state = none →
    hw'.store.stored? ⟨PropertyId.apPowerStateReq, 0⟩ =
      hw.store.stored? ⟨PropertyId.apPowerStateReq, 0⟩ ∧
    changesOf PropertyId.apPowerStateReq hw'.events = changesOf PropertyId.apPowerStateReq hw.events

/-- A report is stored. Of the requests nobody is told yet. -/
theorem Ready.store (h : Ready listener (readings + 1) hw)
    (hprop : v.prop = PropertyId.apPowerStateReport) :
    let used : Hardware := { hw with
      store := { hw.store with pool := (hw.store.pool.copy v).2 }, clock := hw.clock.read.2 }
    ∃ mid, Hardware.write { v with timestamp := hw.clock.now } false used = .ok () mid ∧
      Ready listener readings mid ∧
      (∃ w, mid.store.stored? ⟨PropertyId.apPowerStateReport, 0⟩ = some w ∧ w.payload = v.payload) ∧
      mid.store.stored? ⟨PropertyId.apPowerStateReq, 0⟩ =
        hw.store.stored? ⟨PropertyId.apPowerStateReq, 0⟩ ∧
      changesOf PropertyId.apPowerStateReq mid.events =
        changesOf PropertyId.apPowerStateReq hw.events := by
  intro used
  obtain ⟨prop, area, timestamp, status, payload⟩ := v
  obtain rfl : prop = PropertyId.apPowerStateReport := hprop
  let stamped : PropertyValue :=
    { prop := PropertyId.apPowerStateReport, area, timestamp := hw.clock.now, status, payload }
  have hne : PropertyId.apPowerStateReq ≠ PropertyId.apPowerStateReport := by decide
  obtain ⟨t, change, rules, hwrite, hwritten, hfits, hready⟩ :=
    (h.used (hw.store.pool.copy ⟨_, area, timestamp, status, payload⟩).2).write (v := stamped)
      (.inl rfl) (h.past _ (.inl rfl)) h.forward.now_le false
  have hother (c : PropertyValue) (hc : change = some c) : c.prop ≠ PropertyId.apPowerStateReq := by
    subst hc
    exact hwritten.prop_of_change ▸ hne.symm
  refine ⟨_, hwrite, hready, ⟨_, hwritten.stored_eq hfits, rfl⟩, hwritten.stored_of_ne hne, ?_⟩
  rw [changesOf_append, changesOf_changeEvents hother]
  exact List.append_nil _

/-- A report that is stored is answered on the bench that stores it. -/
theorem reportPower_of_stored {mid : Hardware} (hstate : v.payload.int32s.head? = some state)
    (hwrite : Hardware.write { v with timestamp := hw.clock.now } false { hw with
      store := { hw.store with pool := (hw.store.pool.copy v).2 }, clock := hw.clock.read.2 } =
        .ok () mid) :
    reportPower v hw =
      match (PowerReport.ofInt32? state).bind answerTo with
      | some (request, forget) => Hardware.requestPower request (mid.forgetting forget)
      | none => .ok () mid := by
  rw [reportPower, hstate]
  dsimp only
  rw [bind_of_ok (copied_ok v hw), bind_of_ok (now_ok _), bind_of_ok (during_of_ok hwrite _)]
  cases (PowerReport.ofInt32? state).bind answerTo with
  | none => rfl
  | some answer =>
    obtain ⟨request, forget⟩ := answer
    cases forget <;> rfl

/-- A set of a report that is taken succeeds. -/
theorem setValue_of_reported (hprop : v.prop = PropertyId.apPowerStateReport)
    (h : reportPower v hw = .ok () hw') : setValue v hw = .ok () hw' := by
  have hservice : serviceSet v hw = .ok (some (.powerState, reportPower v)) hw := by
    rw [serviceSet, hprop]
    rfl
  rw [setValue, bind_of_ok hservice]
  exact during_of_ok h _

/-- On a bench that is ready a report is always taken, and answered as its state demands. The bench
stays ready. -/
theorem handshake_of_ready (h : Ready listener (readings + 2) hw)
    (hprop : v.prop = PropertyId.apPowerStateReport)
    (hstate : v.payload.int32s.head? = some state) :
    ∃ hw', setValue v hw = .ok () hw' ∧ Handshake listener v state hw hw' ∧
      Ready listener readings hw' := by
  obtain ⟨mid, hwrite, hmid, hreport, hrequest, hquiet⟩ := h.store hprop
  have hanswer := reportPower_of_stored hstate hwrite
  have hasked := answer_eq state
  cases hfound : (PowerReport.ofInt32? state).bind answerTo with
  | none =>
    rw [hfound] at hanswer hasked
    refine ⟨mid, setValue_of_reported hprop hanswer, ⟨hreport, ?_, fun _ => ⟨hrequest, hquiet⟩⟩,
      hmid.of_succ⟩
    intro request hsome
    rw [← hasked] at hsome
    cases hsome
  | some answer =>
    obtain ⟨request, forget⟩ := answer
    rw [hfound] at hanswer hasked
    obtain ⟨hw', hask, hready', hstored, hreport', hevents⟩ :=
      (hmid.forgetting forget).requestPower request
    refine ⟨hw', setValue_of_reported hprop (hanswer.trans hask), ⟨?_, ?_, ?_⟩, hready'⟩
    · rw [hreport', stored?_forgetting hmid.coherent.keyed]
      exact hreport
    · intro request' hsome
      obtain rfl : request = request' := Option.some.inj (hasked.trans hsome)
      refine ⟨(mid.forgetting forget).clock.now, hstored, ?_⟩
      rw [hevents, changesOf_append, events_forgetting, hquiet]
      rfl
    · intro hnone
      rw [← hasked] at hnone
      cases hnone

/-- Reports leave a bench ready, but for the readings of the clock that they take. -/
theorem ready_of_reports {reports : List PropertyValue}
    (h : Ready listener (2 * reports.length + readings) hw)
    (hreports : ∀ r ∈ reports, r.prop = PropertyId.apPowerStateReport ∧ r.payload.int32s ≠ []) :
    Ready listener readings (hw.run (reports.map .set)) := by
  induction reports generalizing hw with
  | nil =>
    rw [List.length_nil, Nat.mul_zero, Nat.zero_add] at h
    exact h
  | cons r rest ih =>
    obtain ⟨hprop, hne⟩ := hreports r List.mem_cons_self
    have hready : Ready listener (2 * rest.length + readings + 2) hw := by
      have hlength : 2 * (r :: rest).length + readings = 2 * rest.length + readings + 2 := by
        rw [List.length_cons]
        omega
      exact hlength ▸ h
    obtain ⟨hw', hset, -, hready'⟩ := handshake_of_ready hready hprop (List.head?_eq_some_head hne)
    have hafter : hw.run ((r :: rest).map .set) = hw'.run (rest.map .set) :=
      congrArg (Hardware.run · (rest.map .set)) (after_set_of_ok hset)
    rw [hafter]
    exact ih hready' fun r hr => hreports r (List.mem_cons_of_mem _ hr)

/-- However many reports came before, the same or others, a report is taken and stored. If its state
is answered, then with one request that is stored and told of once, whatever the slot of requests
held; if not, that slot stays as it is and nobody is told of it. A report takes two readings of the
clock at most. -/
theorem handshake_of_reports {hw : Hardware} {listener : Listener} {reports : List PropertyValue}
    (h : Ready listener (2 * reports.length + 2) hw)
    (hreports : ∀ r ∈ reports, r.prop = PropertyId.apPowerStateReport ∧ r.payload.int32s ≠ [])
    {v : PropertyValue} (hprop : v.prop = PropertyId.apPowerStateReport) {state : Int32}
    (hstate : v.payload.int32s.head? = some state) :
    ∃ hw', setValue v (hw.run (reports.map .set)) = .ok () hw' ∧
      Handshake listener v state (hw.run (reports.map .set)) hw' := by
  have hready : Ready listener (0 + 2) (hw.run (reports.map .set)) := ready_of_reports h hreports
  obtain ⟨hw', hset, hshake, -⟩ := handshake_of_ready hready hprop hstate
  exact ⟨hw', hset, hshake⟩

/-- A bench with both properties and a listener. -/
def powered : Hardware :=
  (ofDeclarations [{ config := { prop := PropertyId.apPowerStateReport, type := .int32Vec } },
    { config := { prop := PropertyId.apPowerStateReq, type := .int32Vec } }] []
    (.ticking 2000000)).run [.listen { name := "app" }]

/-- The bench with both properties is ready for two reports. -/
theorem ready_powered : Ready { name := "app" } 4 powered where
  coherent := Reachable.coherent ⟨_, [], .ticking 2000000, {}, [.listen { name := "app" }], rfl⟩
  global := by rintro prop (rfl | rfl) <;> exact ⟨_, rfl, rfl⟩
  past := by
    have hreport : powered.store.stored? ⟨PropertyId.apPowerStateReport, 0⟩ = none := by
      decide +kernel
    have hrequest : powered.store.stored? ⟨PropertyId.apPowerStateReq, 0⟩ = none := by
      decide +kernel
    rintro prop (rfl | rfl) old hold
    · cases hreport.symm.trans hold
    · cases hrequest.symm.trans hold
  forward := by
    have hbounded : ∀ n ≤ 4, ∀ m ≤ n,
        powered.clock.reading m + powered.clock.waited ≤
          powered.clock.reading n + powered.clock.waited := by decide +kernel
    exact fun m n _ hmn hn => hbounded n (Nat.zero_add 4 ▸ hn) m hmn
  listening := rfl
  stands _ _ := Listener.stands_iff.mpr nofun

/-- A client waits, is restarted and waits again. It is asked to go on once more. -/
theorem handshake_of_restarted_client :
    let waits : PropertyValue :=
      { prop := PropertyId.apPowerStateReport, payload := { int32s := [1] } }
    ∃ hw', setValue waits (powered.run [.set waits]) = .ok () hw' ∧
      Handshake { name := "app" } waits 1 (powered.run [.set waits]) hw' := by
  intro waits
  have hreports : ∀ r ∈ [waits],
      r.prop = PropertyId.apPowerStateReport ∧ r.payload.int32s ≠ [] := by decide
  exact handshake_of_reports ready_powered hreports rfl rfl

end Hardware

end BenchVehicle
