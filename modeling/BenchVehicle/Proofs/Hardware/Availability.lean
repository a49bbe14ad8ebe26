import BenchVehicle.Proofs.Hardware.Confinement
import BenchVehicle.Session

/-!
# Statuses

Nothing but the values that are given to override others at the start brings in a status. A value
that is written without its status takes over the status of what was there, and is available where
nothing was; the few values that are written with their status are made by the bench itself. So
whatever status a value has that a client, the vehicle or a generator sends, a bench without
overriding values keeps, puts by, tells of and hands out available values only.
-/

namespace BenchVehicle

namespace Store

variable {s t : Store} {v : PropertyValue} {updateStatus : Bool} {change : Option PropertyValue}
  {rules : SlotRules}

/-- That all stored values are available. -/
def OnlyAvailable (s : Store) : Prop :=
  ∀ prop slot v, s.value? prop slot = some v → v.status = .available

/-- An empty store holds only available values. -/
theorem onlyAvailable_empty (pool : ValuePool) : OnlyAvailable { pool } := fun _ _ _ hv => nomatch hv

/-- Slots may be emptied. -/
theorem OnlyAvailable.emptied (ha : s.OnlyAvailable)
    (h : ∀ prop slot v, t.value? prop slot = some v → s.value? prop slot = some v) :
    t.OnlyAvailable := fun prop slot v hv => ha prop slot v (h prop slot v hv)

/-- A store that looks the same holds only available values too. -/
theorem OnlyAvailable.same (ha : s.OnlyAvailable) (h : Same s t) : t.OnlyAvailable :=
  ha.emptied fun prop slot _ hv => (h.value prop slot).symm.trans hv

/-- What a write stores is available, if a status that it writes says so. -/
theorem OnlyAvailable.settled (ha : s.OnlyAvailable)
    (hstatus : updateStatus = true → v.status = .available) (prop : Int32) (slot : Slot) :
    (Store.settled (s.value? prop slot) v updateStatus).status = .available := by
  cases updateStatus with
  | true => exact hstatus rfl
  | false =>
    cases hold : s.value? prop slot with
    | none => rfl
    | some old => exact ha prop slot old hold

/-- A write leaves only available values unless it writes another status. -/
theorem OnlyAvailable.written (ha : s.OnlyAvailable)
    (hstatus : updateStatus = true → v.status = .available)
    (h : Written s v updateStatus t change rules) : t.OnlyAvailable := by
  intro prop slot w hw
  rw [h.value_eq] at hw
  split at hw
  · cases hw
    exact ha.settled hstatus _ _
  · exact ha prop slot w hw

/-- An announced change is available. -/
theorem OnlyAvailable.announced (ha : s.OnlyAvailable)
    (hstatus : updateStatus = true → v.status = .available)
    (h : Written s v updateStatus t change rules) {c : PropertyValue} (hc : change = some c) :
    c.status = .available := by
  have hchange := h.change_eq
  dsimp only at hchange
  rw [hc] at hchange
  split at hchange
  · rw [Option.some.inj hchange]
    exact ha.settled hstatus _ _
  · cases hchange

/-- What is found in a slot is available. -/
theorem OnlyAvailable.found (ha : s.OnlyAvailable) {prop area : Int32} {slot : SlotRules → Slot}
    {found : Except Failure PropertyValue}
    (h : found = match s.rules? prop with
      | none => Cause.fail (.notRegistered prop)
      | some rules =>
        match s.value? prop (slot rules) with
        | none => Cause.fail (.notWritten prop area)
        | some v => .ok v)
    (hv : found = .ok v) : v.status = .available := by
  rw [h] at hv
  split at hv
  · cases hv
  · split at hv
    · cases hv
    · next hstored =>
      cases hv
      exact ha _ _ v hstored

/-- What is found by its instance is available. -/
theorem OnlyAvailable.find (ha : s.OnlyAvailable) {request : PropertyValue}
    (h : s.find request = .ok v) : v.status = .available := ha.found (s.find_eq request) h

/-- What is found by its token is available. -/
theorem OnlyAvailable.findToken (ha : s.OnlyAvailable) {prop area : Int32} {token : Int64}
    (h : s.findToken prop area token = .ok v) : v.status = .available :=
  ha.found (s.findToken_eq prop area token) h

end Store

namespace Hardware

open Op Store

variable {hw hw' : Hardware} {v : PropertyValue}

/-! ## Effects -/

/-- A bench that holds, has put by and told of available values only. -/
structure OnlyAvailable (hw : Hardware) : Prop where
  /-- The stored values are available. -/
  stored : hw.store.OnlyAvailable
  /-- The values put by are available. -/
  saved : ∀ key v, hw.saved.get? key = some v → v.status = .available
  /-- The values that a listener was told of are available. -/
  told : ∀ event ∈ hw.events, event.Available

/-- Where nothing was put by or told the store alone matters. -/
theorem OnlyAvailable.of_store (h : hw.OnlyAvailable) (hstore : hw'.store.OnlyAvailable)
    (hsaved : hw'.saved = hw.saved) (hevents : hw'.events = hw.events) : hw'.OnlyAvailable where
  stored := hstore
  saved key v hv := h.saved key v (hsaved ▸ hv)
  told event he := h.told event (hevents ▸ he)

/-- Every effect keeps available what is. -/
theorem Effect.onlyAvailable (heffect : Effect hw hw') (hk : hw.store.Keyed)
    (h : hw.OnlyAvailable) : hw'.OnlyAvailable := by
  cases heffect with
  | quiet hquiet => exact h.of_store (h.stored.same hquiet.store) hquiet.saved hquiet.events
  | wrote v updateStatus change hwrite hsaved hevents hstatus =>
    obtain ⟨rules, hwritten⟩ := written_of_write hk hwrite
    refine ⟨h.stored.written hstatus hwritten, fun key w hw => h.saved key w (hsaved ▸ hw), ?_⟩
    intro event he
    rw [hevents, List.mem_append] at he
    rcases he with hearlier | hnew
    · exact h.told event hearlier
    · unfold changeEvents at hnew
      split at hnew
      · obtain rfl := List.mem_singleton.mp hnew
        exact h.stored.announced hstatus hwritten rfl
      · cases hnew
  | removed v hstore hsaved hevents =>
    have hstored : hw'.store.OnlyAvailable :=
      hstore ▸ h.stored.emptied fun _ _ _ => kept_of_remove hk
    exact h.of_store hstored hsaved hevents
  | removedAll prop hstore hsaved hevents =>
    have hstored : hw'.store.OnlyAvailable :=
      hstore ▸ h.stored.emptied fun _ _ _ => kept_of_removeAll hk
    exact h.of_store hstored hsaved hevents
  | saved key v hfound hstore hsaved hevents =>
    refine ⟨h.stored.same hstore, fun other w hw => ?_, fun event he => h.told event (hevents ▸ he)⟩
    rw [hsaved, SortedMap.get?_insert] at hw
    split at hw
    · cases hw
      exact h.stored.find hfound
    · exact h.saved other w hw
  | took key v hfound hstore hsaved hevents =>
    refine ⟨h.stored.same hstore, fun other w hw => ?_, fun event he => h.told event (hevents ▸ he)⟩
    rw [hsaved, SortedMap.get?_erase] at hw
    split at hw
    · cases hw
    · exact h.saved other w hw
  | told event hstore hsaved hevents havailable =>
    refine ⟨h.stored.same hstore, fun key w hw => h.saved key w (hsaved ▸ hw), fun other he => ?_⟩
    rw [hevents, List.mem_append] at he
    rcases he with hearlier | hnew
    · exact h.told other hearlier
    · exact List.mem_singleton.mp hnew ▸ havailable

/-- No sequence of effects makes a value unavailable. -/
theorem Reaches.onlyAvailable (hreaches : Reaches hw hw') (hc : hw.store.Coherent)
    (h : hw.OnlyAvailable) : hw'.OnlyAvailable := by
  have hboth := hreaches.keeps (P := fun hw => hw.store.Coherent ∧ hw.OnlyAvailable)
    (fun _ _ heffect hp => ⟨heffect.coherent hp.1, heffect.onlyAvailable hp.1.keyed hp.2⟩) ⟨hc, h⟩
  exact hboth.2

/-! ## The start -/

/-- Without overriding values no step of the start makes a value unavailable. -/
theorem StartStep.onlyAvailable (hstep : StartStep [] hw hw') (hk : hw.store.Keyed)
    (h : hw.OnlyAvailable) : hw'.OnlyAvailable := by
  cases hstep with
  | declared config => exact h.of_store (h.stored.emptied fun _ _ _ => kept_of_register) rfl rfl
  | @written v _ _ hwrite hstatus =>
    obtain ⟨rules, hwritten⟩ := written_of_write hk hwrite
    have hown : v.status = .available := by simpa using hstatus
    exact h.of_store (h.stored.written (fun _ => hown) hwritten) rfl rfl
  | used => exact h.of_store (h.stored.same (.of_records rfl)) rfl rfl

/-- A bench without overriding values starts with available values only. -/
theorem onlyAvailable_ofDeclarations (declarations : List Declaration) (clock : Clock)
    (pool : ValuePool) : (ofDeclarations declarations [] clock pool).OnlyAvailable := by
  have hempty : OnlyAvailable { store := { pool }, clock } :=
    ⟨onlyAvailable_empty pool, (fun _ _ hv => nomatch hv), (fun _ he => nomatch he)⟩
  have hboth := (starts_ofDeclarations declarations [] clock pool).keeps
    (P := fun hw => hw.store.Coherent ∧ hw.OnlyAvailable)
    (fun _ _ hstep hp => ⟨hstep.coherent hp.1, hstep.onlyAvailable hp.1.keyed hp.2⟩)
    ⟨coherent_empty pool, hempty⟩
  exact hboth.2

/-! ## Gets -/

/-- That an operation, if it succeeds where all stored values are available, gives an available
value. -/
def GivesAvailable (op : Op PropertyValue) : Prop :=
  ∀ hw v mid, hw.store.OnlyAvailable → op hw = .ok v mid → v.status = .available

/-- How failures are worded does not matter for what is given. -/
theorem GivesAvailable.mapFailure {op : Op PropertyValue} (h : GivesAvailable op)
    (f : Failure → Failure) : GivesAvailable (op.mapFailure f) := fun hw v mid ha hop =>
  h hw v mid ha (done_of_mapFailure hop)

/-- A stored value is handed out. -/
theorem givesAvailable_handOut {look : Store → Except Failure PropertyValue}
    (h : ∀ s v, s.OnlyAvailable → look s = .ok v → v.status = .available) :
    GivesAvailable (fromStore fun s => s.handOut (look s)) := by
  intro hw v mid ha hop
  have hfst := hw.store.fst_handOut (look hw.store)
  unfold fromStore at hop
  split at hop
  · next hfound =>
    cases hop
    have hstored : (hw.store.handOut (look hw.store)).1 = .ok v := congrArg Prod.fst hfound
    exact h hw.store v ha (hfst.symm.trans hstored)
  · cases hop

/-- A read gives an available value. -/
theorem givesAvailable_readStored (request : PropertyValue) :
    GivesAvailable (readStored request) := givesAvailable_handOut fun _ _ ha => ha.find

/-- A value that is stamped keeps its status. -/
theorem givesAvailable_stamped {op : Op PropertyValue} (h : GivesAvailable op) :
    GivesAvailable (stamped op) := by
  intro hw v mid ha hop
  obtain ⟨w, between, hw', hrest⟩ := done_of_bind hop
  have hv : v = { w with timestamp := between.clock.read.1 } := by
    obtain ⟨time, last, hnow, hpure⟩ := done_of_bind hrest
    cases hnow
    cases hpure
    rfl
  rw [hv]
  exact h hw w between ha hw'

/-- A kept frame is available. -/
theorem givesAvailable_getFrame (request : PropertyValue) : GivesAvailable (getFrame request) := by
  unfold getFrame
  split
  · intro hw v mid _ hop
    cases hop
  · exact (givesAvailable_handOut fun _ _ ha => ha.findToken).mapFailure _

/-- The list of kept frames is available. -/
theorem givesAvailable_listFrames : GivesAvailable listFrames := by
  intro hw v mid _ hop
  obtain ⟨frames, between, -, hrest⟩ := done_of_bind hop
  obtain ⟨info, last, hblank, hpure⟩ := done_of_bind hrest
  obtain rfl : info = .ofKey PropertyId.obd2FreezeFrameInfo 0 :=
    (EStateM.Result.ok.inj ((blank_ok _ _ between).symm.trans hblank)).1.symm
  cases hpure
  rfl

/-- The echo is available. -/
theorem givesAvailable_getEcho (request : PropertyValue) : GivesAvailable (getEcho request) := by
  intro hw v mid ha hop
  obtain ⟨w, between, hw', hpure⟩ := done_of_bind hop
  cases hpure
  exact givesAvailable_stamped (givesAvailable_readStored request) hw w mid ha hw'

/-- User management makes its responses available, also prepared ones. -/
theorem givesAvailable_getUserHal (request : PropertyValue) :
    GivesAvailable (getUserHal request) := by
  intro hw v mid _ hop
  unfold getUserHal fromUserHal UserHal.get at hop
  split at hop
  · next hanswer =>
    split at hanswer
    · cases hanswer
    · cases hid : UserHal.requestId request with
      | error e =>
        rw [hid] at hanswer
        cases hanswer
      | ok id =>
        rw [hid] at hanswer
        cases hop
        cases hanswer
        rfl
  · cases hop

/-- What a service answers a get with is available. -/
theorem givesAvailable_serviceGet {request : PropertyValue} {service : Service}
    {op : Op PropertyValue} (h : serviceGet request = some (service, op)) : GivesAvailable op := by
  unfold serviceGet at h
  dsimp only at h
  split at h
  · cases h
    exact givesAvailable_getUserHal request
  split at h
  · cases h
    exact givesAvailable_stamped (givesAvailable_getFrame request)
  split at h
  · cases h
    exact givesAvailable_stamped givesAvailable_listFrames
  split at h
  · cases h
    exact givesAvailable_getEcho request
  · cases h

/-- What a get gives is available. -/
theorem givesAvailable_getValue (request : PropertyValue) : GivesAvailable (getValue request) := by
  unfold getValue
  split
  · next h => exact (givesAvailable_serviceGet h).mapFailure _
  · exact (givesAvailable_readStored request).mapFailure _

/-- What a get of a client gives is available. -/
theorem givesAvailable_getForClient (request : PropertyValue) :
    GivesAvailable (getForClient request) := by
  intro hw v mid ha hop
  obtain ⟨u, between, hcheck, hget⟩ := done_of_bind hop
  have hsame : between = hw := (final_of_ok hcheck).symm.trans (final_checkAccess _ _ hw)
  exact givesAvailable_getValue request hw v mid ha (hsame ▸ hget)

/-! ## Answers -/

/-- The values in an answer. -/
def Answer.values : Answer → List PropertyValue
  | .value v => [v]
  | .gets deliveries => deliveries.flatMap fun d => d.results.filterMap GetResult.value
  | .done | .status _ | .flag _ | .sets _ | .report _ => []

/-- The values that the worker for requests for values hands out are available. -/
theorem available_workGets (ha : hw.store.OnlyAvailable) {d : Delivery Nat GetResult}
    (hd : d ∈ (workGets hw).1) {r : GetResult} (hr : r ∈ d.results) (hv : r.value = some v) :
    v.status = .available := by
  cases hbatch : hw.gets.advance.finish? with
  | none =>
    rw [workGets_of_none hbatch] at hd
    cases hd
  | some taken =>
    obtain ⟨batch, gets⟩ := taken
    have hkeeps (request : GetRequest) (hw : Hardware) (h : hw.store.OnlyAvailable) :
        ((Worker.gets.handler.answer request).run hw).2.store.OnlyAvailable :=
      h.same (looked_serveGet request hw).store
    have hgroup : d ∈ Delivery.group (Pipeline.outcomes
        ((Pipeline.answers Worker.gets.handler batch).run { hw with gets }).1) := by
      rw [workGets_of_some hbatch] at hd
      exact Pipeline.run_resolve Worker.gets.handler batch { hw with gets } ▸ hd
    obtain ⟨outcome, houtcome, hresult⟩ := Delivery.result_of_mem_group hgroup hr
    obtain ⟨answered, hanswered, rfl⟩ := List.mem_map.mp houtcome
    -- The request was answered by a get, on a bench that the requests before it left.
    obtain ⟨-, hserved⟩ := Pipeline.run_answers_of (P := fun hw => hw.store.OnlyAvailable)
      Worker.gets.handler hkeeps batch { hw with gets } ha
    obtain ⟨mid, hmid, hgiven⟩ := hserved answered hanswered
    have hserve : (serveGet answered.1.request mid).1 = r :=
      Option.some.inj (hgiven.symm.trans hresult)
    have hfound : ((getForClient answered.1.request.value).attempt mid).1.toOption = some v := by
      rw [← hv, ← hserve]
      exact congrArg (fun served => served.1.value)
        (Worker.gets.run_serve mid answered.1.request).symm
    cases hattempt : ((getForClient answered.1.request.value).attempt mid).1 with
    | error code =>
      rw [hattempt] at hfound
      cases hfound
    | ok w =>
      rw [hattempt] at hfound
      cases hfound
      obtain ⟨hw', hget⟩ := done_of_attempt hattempt
      exact givesAvailable_getForClient _ mid v hw' hmid hget

/-- An answer that is put together from a result. -/
theorem answer_of_bind {α : Type} {op : Op α} {f : α → Answer} {answer : Answer}
    (h : (do return f (← op) : Op Answer) hw = .ok answer hw') :
    ∃ a, op hw = .ok a hw' ∧ answer = f a := by
  obtain ⟨a, mid, hop, hpure⟩ := done_of_bind h
  cases hpure
  exact ⟨a, hop, rfl⟩

/-- The values that operations answer with are available. -/
theorem available_of_answer (ha : hw.store.OnlyAvailable) {o : Operation} {answer : Answer}
    (h : perform o hw = .ok answer hw') : ∀ v ∈ answer.values, v.status = .available := by
  cases o with
  | get request =>
    obtain ⟨w, hget, rfl⟩ := answer_of_bind h
    intro v hv
    obtain rfl := List.mem_singleton.mp hv
    exact givesAvailable_getValue request hw v hw' ha hget
  | workGets =>
    have hanswer : answer = .gets (workGets hw).1 := by
      cases h
      rfl
    intro v hv
    rw [hanswer] at hv
    obtain ⟨d, hd, hmem⟩ := List.mem_flatMap.mp hv
    obtain ⟨r, hr, hvalue⟩ := List.mem_filterMap.mp hmem
    exact available_workGets ha hd hr hvalue
  | submitGets | submitSets | workSets | setRate | startGenerator | stopGenerator | listen
  | listenForErrors | wake | stop =>
    cases h
    exact nofun
  | set | takeFromBus | refresh | save | restore | command =>
    obtain ⟨_, -, rfl⟩ := answer_of_bind h
    exact nofun

/-! ## Any run -/

/-- A bench that shows available values only. -/
structure ShowsAvailable (hw : Hardware) : Prop extends OnlyAvailable hw where
  /-- The values that the next operation answers with are available. -/
  answered : ∀ o answer hw', perform o hw = .ok answer hw' →
    ∀ v ∈ answer.values, v.status = .available

/-- Without overriding values a bench shows available values only, whatever happens to it. -/
theorem showsAvailable_run (declarations : List Declaration) (clock : Clock) (pool : ValuePool)
    (history : List Operation) :
    ((ofDeclarations declarations [] clock pool).run history).ShowsAvailable := by
  have honly : ((ofDeclarations declarations [] clock pool).run history).OnlyAvailable :=
    (reaches_run _ history).onlyAvailable (coherent_ofDeclarations declarations [] clock pool)
      (onlyAvailable_ofDeclarations declarations clock pool)
  exact ⟨honly, fun _ _ _ h => available_of_answer honly.stored h⟩

/-- A session without overriding values starts with a bench on which the rates of its subscriptions
are set. -/
theorem hardware_start {c : Config} (hoff : c.settings.overrideEnabled = false)
    (files : Option (List OverrideFile)) (clock : Clock) :
    (Session.start c files clock).hardware = (ofDeclarations c.declarations [] clock).run
      (c.subscriptions.map fun s => .setRate s.key s.rate) := by
  unfold Session.start
  simp only [hoff, run, List.foldl_map]
  rfl

/-- Without overriding values everything is available: the stored values, those put by, those that a
listener is told of, and those that operations answer with, whatever status the values have that come
in. This is so for the bench of any declarations, and for that of a session whose settings leave
overriding values out. -/
theorem available_of_history (history : List Operation) :
    (∀ declarations clock pool,
      ((ofDeclarations declarations [] clock pool).run history).ShowsAvailable) ∧
    ∀ (c : Config) files clock, c.settings.overrideEnabled = false →
      ((Session.start c files clock).hardware.run history).ShowsAvailable := by
  refine ⟨fun declarations clock pool => showsAvailable_run declarations clock pool history, ?_⟩
  intro c files clock hoff
  have hrun : (Session.start c files clock).hardware.run history =
      (ofDeclarations c.declarations [] clock).run
        ((c.subscriptions.map fun s => .setRate s.key s.rate) ++ history) := by
    rw [hardware_start hoff]
    exact (List.foldl_append ..).symm
  rw [hrun]
  exact showsAvailable_run _ clock {} _

/-- A number that is sampled arrives in error. It is stored, put by, told of and handed out as an
available one. -/
theorem available_of_faulty :
    let c : Config :=
      { declared := [{ config := { prop := 5, type := .int32 } }]
        subscriptions := [{ key := ⟨5, 0⟩, rate := ⟨false, 0x3F800000⟩ }] }
    let faulty : PropertyValue := { prop := 5, status := .error, payload := { int32s := [7] } }
    let v := { faulty with status := .available }
    let history : List Operation :=
      [.listen { name := "a" }, .takeFromBus faulty, .save ⟨5, 0⟩,
        .submitGets 1 [{ id := 3, value := faulty }]]
    let hw := (Session.start c none (.ticking 2000000)).hardware.run history
    c.settings.overrideEnabled = false ∧ hw.ShowsAvailable ∧
      hw.store.value? 5 { area := 0, token := 0 } = some v ∧
      hw.saved.get? ⟨5, 0⟩ = some v ∧ hw.events.length = 1 ∧
      ((workGets hw).1.map fun d => d.results.map GetResult.value) = [[some v]] := by
  intro c faulty v history hw
  obtain ⟨-, hsession⟩ := available_of_history history
  exact ⟨rfl, hsession c none (.ticking 2000000) rfl, by decide +kernel, by decide +kernel,
    by decide +kernel, by decide +kernel⟩

end Hardware

end BenchVehicle
