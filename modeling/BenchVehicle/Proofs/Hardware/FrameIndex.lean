import BenchVehicle.Proofs.Hardware.Chronicle
import BenchVehicle.Proofs.Hardware.FailedSet
import BenchVehicle.Proofs.Hardware.Reading
import BenchVehicle.Proofs.Store.Order
import Mathlib.Data.List.Sort

/-!
# The index of kept frames

Frames are kept under their times, listed by reading the stored values, and found and removed by
their times. The three views agree: the list ascends, a frame is found exactly at the times that are
listed, and it is the one that was stored last with that time. Removing frames takes their times off
the list and leaves the others.
-/

namespace BenchVehicle

namespace Store

variable {s t : Store} {rules : SlotRules} {time : Int64}

/-- A store that keeps frames, in order and where they belong. -/
structure KeepsFrames (s : Store) : Prop where
  /-- Values lie where they belong. -/
  coherent : s.Coherent
  /-- Values are in the order of their slots. -/
  ordered : s.Ordered
  /-- There is one area for all frames. -/
  global : s.Global PropertyId.obd2FreezeFrame

/-- The frame that is kept at a time. -/
def frame? (s : Store) (time : Int64) : Option PropertyValue :=
  s.value? PropertyId.obd2FreezeFrame ⟨0, time⟩

/-- The times of the kept frames, as they are listed. -/
def frameTimes (s : Store) : List Int64 :=
  match s.valuesOf PropertyId.obd2FreezeFrame with
  | .ok frames => frames.map PropertyValue.timestamp
  | .error _ => []

/-! ## Places -/

/-- A frame is kept under its time. -/
theorem Coherent.slotOf_frame (hc : s.Coherent)
    (hrules : s.rules? PropertyId.obd2FreezeFrame = some rules)
    (hglobal : rules.config.isGlobal = true) (v : PropertyValue) :
    rules.slotOf v = ⟨0, v.timestamp⟩ := by
  unfold SlotRules.slotOf SlotRules.slot
  rw [hc.token _ rules hrules, hglobal]
  rfl

/-- A frame is found by its time or not at all. -/
theorem KeepsFrames.findToken_eq (h : s.KeepsFrames) (time : Int64) :
    s.findToken PropertyId.obd2FreezeFrame 0 time =
      match s.frame? time with
      | none => Cause.fail (.notWritten PropertyId.obd2FreezeFrame 0)
      | some v => .ok v := by
  obtain ⟨rules, hrules, hglobal⟩ := h.global
  have hslot : rules.slot 0 time = ⟨0, time⟩ := by
    unfold SlotRules.slot
    rw [hglobal]
    rfl
  rw [Store.findToken_eq, hrules]
  dsimp only
  rw [hslot]
  rfl

/-- The values of frames, with their slots. -/
theorem KeepsFrames.exists_entries (h : s.KeepsFrames) :
    ∃ entries : List (Slot × PropertyValue),
      s.valuesOf PropertyId.obd2FreezeFrame = .ok (entries.map Prod.snd) ∧
      entries.Pairwise (fun e e' => e.1 < e'.1) ∧
      (∀ e ∈ entries, e.1 = ⟨0, e.2.timestamp⟩) ∧
      ∀ slot v, (slot, v) ∈ entries ↔ s.value? PropertyId.obd2FreezeFrame slot = some v := by
  obtain ⟨rules, hrules, hglobal⟩ := h.global
  obtain ⟨r, hr, rfl⟩ := record_of_rules? hrules
  have hordered : r.values.Ordered := h.ordered _ r hr
  have hentry (slot : Slot) (v : PropertyValue) :
      (slot, v) ∈ r.values.toList ↔ s.value? PropertyId.obd2FreezeFrame slot = some v := by
    rw [value?_of_record hr]
    exact SortedMap.mem_toList_iff hordered.nodup
  refine ⟨r.values.toList, ?_, List.pairwise_map.mp hordered, ?_, hentry⟩
  · unfold valuesOf record
    rw [hr]
    rfl
  · rintro ⟨slot, v⟩ he
    obtain ⟨-, hslot, -⟩ := h.coherent.placed _ _ slot v hrules ((hentry slot v).mp he)
    exact hslot.symm.trans (h.coherent.slotOf_frame hrules hglobal v)

/-- The times are listed in ascending order. -/
theorem KeepsFrames.frameTimes_ascending (h : s.KeepsFrames) : s.frameTimes.Pairwise (· < ·) := by
  obtain ⟨entries, hvalues, hascending, hplaced, -⟩ := h.exists_entries
  unfold frameTimes
  rw [hvalues]
  dsimp only
  rw [List.map_map, List.pairwise_map]
  refine hascending.imp_of_mem fun {e e'} he he' hlt => ?_
  rw [hplaced e he, hplaced e' he'] at hlt
  exact Slot.token_lt_of_lt hlt rfl

/-- A time is listed exactly if a frame is kept at it. -/
theorem KeepsFrames.mem_frameTimes (h : s.KeepsFrames) :
    time ∈ s.frameTimes ↔ ∃ v, s.frame? time = some v := by
  obtain ⟨entries, hvalues, -, hplaced, hentry⟩ := h.exists_entries
  unfold frameTimes
  rw [hvalues]
  dsimp only
  rw [List.map_map, List.mem_map]
  constructor
  · rintro ⟨⟨slot, v⟩, he, rfl⟩
    obtain rfl : slot = ⟨0, v.timestamp⟩ := hplaced _ he
    exact ⟨v, (hentry _ v).mp he⟩
  · rintro ⟨v, hv⟩
    have he := (hentry _ v).mpr hv
    have hslot : (⟨0, time⟩ : Slot) = ⟨0, v.timestamp⟩ := hplaced _ he
    exact ⟨_, he, (congrArg Slot.token hslot).symm⟩

/-! ## Removals -/

/-- What asks for the removal of the frame at a time. -/
abbrev frameAsked (time : Int64) : PropertyValue :=
  { PropertyValue.ofKey PropertyId.obd2FreezeFrame 0 with timestamp := time }

/-- After a removal frames are kept as before. -/
theorem KeepsFrames.remove (h : s.KeepsFrames) (v : PropertyValue) : (s.remove v).KeepsFrames where
  coherent := h.coherent.remove v
  ordered := h.ordered.remove v
  global := by
    obtain ⟨rules, hrules, hglobal⟩ := h.global
    exact ⟨rules, (rules?_remove h.coherent.keyed v _).trans hrules, hglobal⟩

/-- A removal takes the frame of its time and leaves the others. -/
theorem KeepsFrames.frame?_remove (h : s.KeepsFrames) (gone time : Int64) :
    (s.remove (frameAsked gone)).frame? time = if time = gone then none else s.frame? time := by
  obtain ⟨rules, hrules, hglobal⟩ := h.global
  have hslot : rules.slotOf (frameAsked gone) = ⟨0, gone⟩ :=
    h.coherent.slotOf_frame hrules hglobal _
  have hdeclared : s.rules? (frameAsked gone).prop = some rules := hrules
  have hhere : (PropertyId.obd2FreezeFrame = (frameAsked gone).prop ∧
      (some rules).any (fun r => ⟨0, time⟩ = r.slotOf (frameAsked gone)) = true) ↔ time = gone := by
    rw [Option.any_some, hslot]
    simp [PropertyValue.ofKey]
  unfold frame?
  rw [value?_remove h.coherent.keyed, hdeclared]
  exact if_congr hhere rfl rfl

/-- The removal of several frames takes those and leaves the others. -/
theorem KeepsFrames.frame?_withoutFrames (h : s.KeepsFrames) (times : List Int64) (time : Int64) :
    (s.withoutFrames times).frame? time = if time ∈ times then none else s.frame? time := by
  induction times generalizing s with
  | nil => rfl
  | cons first rest ih =>
    have hrest := ih (h.remove (frameAsked first))
    rw [h.frame?_remove] at hrest
    refine hrest.trans ?_
    by_cases hfirst : time = first <;> simp [hfirst]

/-- The removal of all frames leaves none. -/
theorem frame?_removeAll (hk : s.Keyed) (time : Int64) :
    (s.removeAll PropertyId.obd2FreezeFrame).frame? time = none :=
  (value?_removeAll hk _ _ _).trans (if_pos rfl)

/-- If the same frames are kept, they are listed in the same way. -/
theorem KeepsFrames.frameTimes_eq (hs : s.KeepsFrames) {times : List Int64}
    (hascending : times.Pairwise (· < ·))
    (hmem : ∀ time, time ∈ times ↔ ∃ v, s.frame? time = some v) : s.frameTimes = times :=
  hs.frameTimes_ascending.eq_of_mem_iff hascending fun time =>
    hs.mem_frameTimes.trans (hmem time).symm

/-! ## Frames in a history -/

/-- The frame that an entry of a history stored at a time. -/
def History.frameStored? (time : Int64) : Operation × Report → Option PropertyValue
  | (.write v _, { answer := .ok _, .. }) =>
    if v.prop = PropertyId.obd2FreezeFrame ∧ v.timestamp = time then some v else none
  | _ => none

/-- The frame that was stored last with a time. -/
def History.lastFrame? (time : Int64) (h : History) : Option PropertyValue :=
  h.findSome? (frameStored? time)

/-- A frame is stored by a write to the slot of its time. -/
theorem History.frameStored?_eq {time : Int64}
    (hslot : ∀ v, rules.slotOf v = ⟨0, v.timestamp⟩) (e : Operation × Report) :
    frameStored? time e =
      (writeTo? rules PropertyId.obd2FreezeFrame ⟨0, time⟩ e).map Prod.fst := by
  obtain ⟨o, answer, change⟩ := e
  cases o with
  | write v updateStatus =>
    cases answer with
    | error e => rfl
    | ok a =>
      simp only [frameStored?, writeTo?, hslot, Slot.mk.injEq, true_and]
      split <;> rfl
  | _ => rfl

/-- The writes since a slot was last emptied begin with the latest write to it. -/
theorem History.findSome?_of_writes {h : History} {prop : Int32} {slot : Slot}
    {w : PropertyValue × Bool} {earlier : List (PropertyValue × Bool)}
    (hwrites : h.writes rules prop slot = w :: earlier) :
    h.findSome? (writeTo? rules prop slot) = some w := by
  have hfirst : (h.writes rules prop slot).head? = some w := by rw [hwrites]; rfl
  rw [writes, List.head?_filterMap] at hfirst
  exact (List.takeWhile_prefix _).findSome?_eq_some hfirst

/-- A kept frame is the one that was stored last with its time. -/
theorem Records.lastFrame {past : History} (hr : Records past s) (h : s.KeepsFrames)
    {v : PropertyValue} (hv : s.frame? time = some v) :
    ∃ w, past.lastFrame? time = some w ∧ v.payload = w.payload := by
  obtain ⟨rules, hrules, hglobal⟩ := h.global
  have hvalue := hr.value _ rules ⟨0, time⟩ ((hr.rules _).symm.trans hrules)
  have hstored (e : Operation × Report) : History.frameStored? time e =
      (History.writeTo? rules PropertyId.obd2FreezeFrame ⟨0, time⟩ e).map Prod.fst :=
    History.frameStored?_eq (h.coherent.slotOf_frame hrules hglobal) e
  cases hwrites : past.writes rules PropertyId.obd2FreezeFrame ⟨0, time⟩ with
  | nil =>
    rw [hwrites] at hvalue
    cases hv.symm.trans hvalue
  | cons w earlier =>
    obtain ⟨w, updateStatus⟩ := w
    rw [hwrites] at hvalue
    cases hv.symm.trans hvalue
    have hlast := congrArg (Option.map Prod.fst) (History.findSome?_of_writes hwrites)
    rw [List.map_findSome?] at hlast
    refine ⟨w, ?_, rfl⟩
    rw [History.lastFrame?, funext hstored]
    exact hlast

end Store

namespace Hardware

open Op Store

variable {hw hw' : Hardware} {v request : PropertyValue} {time : Int64}

/-! ## The store of a bench -/

/-- No step puts the values of a store out of order. -/
theorem stepwise_ordered : Stepwise fun hw hw' => hw.store.Ordered → hw'.store.Ordered where
  trans h h' := h' ∘ h
  unseen hrecords _ _ ho := ho.of_records hrecords
  asking _ hw ho := ho.of_records (records_fromUserHal _ hw)
  telling _ hw ho := ho.of_records (records_fromUserHal _ hw)
  writing v updateStatus hw ho := by
    cases hwrite : hw.store.write v updateStatus with
    | error e => exact (final_of_error (commit_of_error hwrite)).symm ▸ ho
    | ok r =>
      rw [final_of_ok (commit_of_ok hwrite)]
      exact ho.write hwrite
  removal v hw ho := by
    rw [removeStored, final_fromStore]
    exact ho.remove v
  removalOfAll prop hw ho := by
    rw [removeAllStored, final_fromStore]
    exact ho.removeAll prop

/-- The values of a bench are always in the order of their slots. -/
theorem Reachable.ordered (h : Reachable hw) : hw.store.Ordered := by
  refine h.keeps (fun pool _ => ordered_empty pool) (fun hw hw' hstep ho => ?_)
    stepwise_ordered.closed
  cases hstep with
  | declared config => exact ho.register config _
  | written hwrite => exact ho.write hwrite
  | used => exact ho.of_records rfl

/-- A bench that comes about keeps frames if their property is declared global. -/
theorem Reachable.keepsFrames (h : Reachable hw)
    (hglobal : hw.store.Global PropertyId.obd2FreezeFrame) : hw.store.KeepsFrames :=
  ⟨h.coherent, h.ordered, hglobal⟩

/-- A set takes away no declaration, so frames are kept after it as well. -/
theorem Reachable.keepsFrames_of_set (h : Reachable hw)
    (hglobal : hw.store.Global PropertyId.obd2FreezeFrame) (hset : setValue v hw = .ok () hw') :
    hw'.store.KeepsFrames := by
  have hreaches : Reaches hw hw' := after_set_of_ok hset ▸ reaches_after hw (.set v)
  have hreach' : Reachable hw' := after_set_of_ok hset ▸ h.run [.set v]
  obtain ⟨rules, hrules, hone⟩ := hglobal
  exact hreach'.keepsFrames ⟨rules, (hreaches.rules h.coherent _).trans hrules, hone⟩

/-! ## Gets -/

/-- A get of a frame finds it exactly if one is kept at its time. -/
theorem getValue_frame (h : hw.store.KeepsFrames)
    (hprop : request.prop = PropertyId.obd2FreezeFrame)
    (htime : request.payload.int64s.head? = some time) :
    (∃ frame now mid, hw.store.frame? time = some frame ∧
      getValue request hw = .ok { frame with timestamp := now } mid) ∨
    hw.store.frame? time = none ∧ ∃ e, getValue request hw = .error (.failed e) hw := by
  have hservice : serviceGet request = some (.diagnostics, stamped (getFrame request)) := by
    rw [serviceGet, hprop]
    rfl
  have hget : getFrame request = (frameAt time).mapFailure fun e =>
      if e.code = .notAvailable then ⟨.frameNotFound time, []⟩ else e := by
    unfold getFrame
    rw [htime]
  have hfind := h.findToken_eq time
  rw [getValue, hservice, hget]
  cases hframe : hw.store.frame? time with
  | some frame =>
    rw [hframe] at hfind
    obtain ⟨pool, hread⟩ := frameAt_of_found hfind
    exact .inl ⟨frame, _, _, rfl, during_of_ok (stamped_of_ok (mapFailure_of_ok hread _)) _⟩
  | none =>
    rw [hframe] at hfind
    have hread := frameAt_of_missing hfind
    exact .inr ⟨rfl, _, during_of_failed (stamped_of_error (mapFailure_of_failed hread _)) _⟩

/-- A get of the list of frames gives their times. -/
theorem getValue_frameTimes (h : hw.store.KeepsFrames)
    (hprop : request.prop = PropertyId.obd2FreezeFrameInfo) :
    ∃ info mid, getValue request hw = .ok info mid ∧
      info.payload = { int64s := hw.store.frameTimes } := by
  have hservice : serviceGet request = some (.diagnostics, stamped listFrames) := by
    rw [serviceGet, hprop]
    rfl
  obtain ⟨entries, hvalues, -⟩ := h.exists_entries
  obtain ⟨pool, hlist⟩ := listFrames_of_ok hvalues
  have htimes : hw.store.frameTimes = (entries.map Prod.snd).map PropertyValue.timestamp := by
    unfold frameTimes
    rw [hvalues]
  have hascending : ascending hw.store.frameTimes = hw.store.frameTimes :=
    List.mergeSort_of_pairwise (h.frameTimes_ascending.imp fun hlt =>
      decide_eq_true (Int64.le_of_lt hlt))
  rw [getValue, hservice]
  refine ⟨_, _, during_of_ok (stamped_of_ok hlist) _, ?_⟩
  rw [← htimes, hascending]

/-- That the kept frames of a bench are those of some times. -/
structure Index (hw : Hardware) (times : List Int64) : Prop where
  /-- The times ascend, so none occurs twice. -/
  ascending : times.Pairwise (· < ·)
  /-- They are what is listed. -/
  listed : ∀ request : PropertyValue, request.prop = PropertyId.obd2FreezeFrameInfo →
    ∃ info mid, getValue request hw = .ok info mid ∧ info.payload = { int64s := times }
  /-- A frame is found exactly at these times. -/
  found_iff : ∀ (request : PropertyValue) (time : Int64),
    request.prop = PropertyId.obd2FreezeFrame → request.payload.int64s.head? = some time →
      ((∃ frame mid, getValue request hw = .ok frame mid) ↔ time ∈ times)
  /-- It is the one that was stored last with its time. -/
  latest : ∀ (request : PropertyValue) (time : Int64) (frame : PropertyValue) (mid : Hardware)
    (past : History), request.prop = PropertyId.obd2FreezeFrame →
      request.payload.int64s.head? = some time → getValue request hw = .ok frame mid →
      Chronicle past hw → ∃ stored, past.lastFrame? time = some stored ∧
        frame.payload = stored.payload

/-- The times at which frames are kept are an index of them. -/
theorem index_of_keepsFrames (h : hw.store.KeepsFrames) : Index hw hw.store.frameTimes where
  ascending := h.frameTimes_ascending
  listed _ hprop := getValue_frameTimes h hprop
  found_iff request time hprop htime := by
    rw [h.mem_frameTimes]
    rcases getValue_frame h hprop htime with ⟨frame, now, mid, hframe, hget⟩ | ⟨hnone, e, hget⟩
    · exact iff_of_true ⟨_, mid, hget⟩ ⟨frame, hframe⟩
    · refine iff_of_false ?_ ?_
      · rintro ⟨frame, mid, hok⟩
        cases hget.symm.trans hok
      · rintro ⟨frame, hframe⟩
        cases hnone.symm.trans hframe
  latest request time found mid past hprop htime hfound hpast := by
    rcases getValue_frame h hprop htime with ⟨frame, now, mid', hframe, hget⟩ | ⟨hnone, e, hget⟩
    · cases hget.symm.trans hfound
      obtain ⟨stored, hstored, hpayload⟩ := hpast.records.lastFrame h hframe
      exact ⟨stored, hstored, hpayload⟩
    · cases hget.symm.trans hfound

/-! ## Clearing -/

/-- What is kept when frames were cleared: nothing if no time was listed, and otherwise what was not
listed. -/
theorem frame?_of_cleared (h : hw.store.KeepsFrames)
    (hprop : v.prop = PropertyId.obd2FreezeFrameClear) (hset : setValue v hw = .ok () hw')
    (time : Int64) :
    hw'.store.frame? time =
      if v.payload.int64s = [] ∨ time ∈ v.payload.int64s then none else hw.store.frame? time := by
  have hservice : serviceSet v hw = .ok (some (.diagnostics, clearFrames v)) hw := by
    rw [serviceSet, hprop]
    rfl
  rw [setValue, bind_of_ok hservice] at hset
  have hclear := done_of_mapFailure hset
  unfold clearFrames at hclear
  cases hlist : v.payload.int64s with
  | nil =>
    rw [hlist] at hclear
    cases hclear
    exact frame?_removeAll h.coherent.keyed time
  | cons first rest =>
    rw [hlist] at hclear
    cases frameRemoval h.coherent.keyed (first :: rest) with
    | done hdone hbecomes =>
      cases hdone.symm.trans hclear
      refine (hbecomes.store.value _ _).trans ((h.frame?_withoutFrames _ time).trans ?_)
      exact if_congr (by simp) rfl rfl
    | cutShort _ _ hfailed => cases hfailed.symm.trans hclear

/-- The times that are listed after frames were cleared. -/
theorem frameTimes_of_cleared (h : hw.store.KeepsFrames) (h' : hw'.store.KeepsFrames)
    (hprop : v.prop = PropertyId.obd2FreezeFrameClear) (hset : setValue v hw = .ok () hw') :
    hw'.store.frameTimes = if v.payload.int64s = [] then []
      else hw.store.frameTimes.filter (· ∉ v.payload.int64s) := by
  refine h'.frameTimes_eq ?_ fun time => ?_
  · split
    · exact List.Pairwise.nil
    · exact h.frameTimes_ascending.filter _
  · rw [frame?_of_cleared h hprop hset]
    by_cases hall : v.payload.int64s = []
    · simp [hall]
    · by_cases hlisted : time ∈ v.payload.int64s <;> simp [hall, hlisted, h.mem_frameTimes]

/-- A get finds the same frame on two benches that keep the same one at its time. -/
theorem getValue_of_same_frame (h : hw.store.KeepsFrames) (h' : hw'.store.KeepsFrames)
    (hprop : request.prop = PropertyId.obd2FreezeFrame)
    (htime : request.payload.int64s.head? = some time)
    (hsame : hw'.store.frame? time = hw.store.frame? time) {found : PropertyValue} {mid : Hardware}
    (hfound : getValue request hw = .ok found mid) :
    ∃ found' mid', getValue request hw' = .ok found' mid' ∧ found'.payload = found.payload := by
  rcases getValue_frame h hprop htime with ⟨frame, now, after, hkept, hget⟩ | ⟨-, e, hget⟩
  · cases hget.symm.trans hfound
    rcases getValue_frame h' hprop htime with ⟨frame', now', after', hkept', hget'⟩ | ⟨hnone, -⟩
    · cases hkept'.symm.trans (hsame.trans hkept)
      exact ⟨_, after', hget', rfl⟩
    · cases hnone.symm.trans (hsame.trans hkept)
  · cases hget.symm.trans hfound

/-- On a bench that keeps frames, the list of their times ascends and is always there, a frame is
found exactly at the listed times, and it is the one that was stored last with its time. After a
successful removal of all frames the list is empty, and after one of some times it is without them,
while every other frame is what it was. -/
theorem index_of_reachable {hw : Hardware} (h : Reachable hw)
    (hglobal : hw.store.Global PropertyId.obd2FreezeFrame) :
    (∃ past, Chronicle past hw) ∧ ∃ times, Index hw times ∧
      ∀ (v : PropertyValue) (hw' : Hardware), v.prop = PropertyId.obd2FreezeFrameClear →
        setValue v hw = .ok () hw' →
        Index hw' (if v.payload.int64s = [] then [] else times.filter (· ∉ v.payload.int64s)) ∧
        ∀ (request : PropertyValue) (time : Int64) (frame : PropertyValue) (mid : Hardware),
          v.payload.int64s ≠ [] → time ∉ v.payload.int64s →
          request.prop = PropertyId.obd2FreezeFrame →
          request.payload.int64s.head? = some time → getValue request hw = .ok frame mid →
          ∃ frame' mid', getValue request hw' = .ok frame' mid' ∧
            frame'.payload = frame.payload := by
  have hkeeps : hw.store.KeepsFrames := h.keepsFrames hglobal
  refine ⟨h.exists_chronicle, hw.store.frameTimes, index_of_keepsFrames hkeeps, ?_⟩
  intro v hw' hprop hset
  have hkeeps' : hw'.store.KeepsFrames := h.keepsFrames_of_set hglobal hset
  constructor
  · exact frameTimes_of_cleared hkeeps hkeeps' hprop hset ▸ index_of_keepsFrames hkeeps'
  · intro request time frame mid hsome hspared hframe htime hfound
    have hsame : hw'.store.frame? time = hw.store.frame? time :=
      (frame?_of_cleared hkeeps hprop hset time).trans (if_neg fun h => h.elim hsome hspared)
    exact getValue_of_same_frame hkeeps hkeeps' hframe htime hsame hfound

/-- The three frames of the start, of which one is removed. -/
theorem index_of_framed :
    Reachable framed ∧ framed.store.Global PropertyId.obd2FreezeFrame ∧
      ∃ times, Index framed times ∧ times = [2000000, 2000001, 2000002] ∧
        ∃ hw', setValue { removal with payload := { int64s := [2000001] } } framed = .ok () hw' ∧
          Index hw' [2000000, 2000002] := by
  have hglobal : framed.store.Global PropertyId.obd2FreezeFrame := ⟨_, rfl, rfl⟩
  obtain ⟨-, times, hindex, hcleared⟩ := index_of_reachable reachable_framed hglobal
  have htimes : times = [2000000, 2000001, 2000002] := by
    obtain ⟨info, mid, hget, hpayload⟩ :=
      hindex.listed { prop := PropertyId.obd2FreezeFrameInfo } rfl
    obtain ⟨info', mid', hget', hlist⟩ : ∃ info mid,
        getValue { prop := PropertyId.obd2FreezeFrameInfo } framed = .ok info mid ∧
          info.payload = { int64s := framed.store.frameTimes } :=
      getValue_frameTimes (reachable_framed.keepsFrames hglobal) rfl
    cases hget.symm.trans hget'
    have hkept : framed.store.frameTimes = [2000000, 2000001, 2000002] := by decide +kernel
    exact (congrArg Payload.int64s (hpayload.symm.trans hlist)).trans hkept
  refine ⟨reachable_framed, hglobal, times, hindex, htimes, ?_⟩
  obtain ⟨hw', hset⟩ : ∃ hw', setValue { removal with payload := { int64s := [2000001] } } framed =
      .ok () hw' := ⟨_, rfl⟩
  refine ⟨hw', hset, ?_⟩
  have hafter := (hcleared _ hw' rfl hset).1
  rw [htimes] at hafter
  exact hafter

end Hardware

end BenchVehicle
