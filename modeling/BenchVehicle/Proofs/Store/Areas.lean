import BenchVehicle.Proofs.SortedMap
import BenchVehicle.Proofs.Store.Mirror

/-!
# Areas of a global property

A global property has one area, so the area that a value names selects nothing: two histories that
differ only in the areas that they name for it store alike and answer alike. The area is kept with
the value, though. A read shows the area that the last write named, and a write of what is there
under another area is announced as a change. That is all the difference that areas make.
-/

namespace BenchVehicle

/-! ## Leaving the areas out -/

variable {p : Int32}

/-- A value with area 0, if it is of property `p`. -/
def PropertyValue.unplaced (p : Int32) (v : PropertyValue) : PropertyValue :=
  if v.prop = p then { v with area := 0 } else v

namespace PropertyValue

/-- Values of other properties keep their areas. -/
theorem unplaced_of_ne {v : PropertyValue} (h : v.prop ≠ p) : v.unplaced p = v := if_neg h

/-- Only the area of a value is touched. -/
theorem unplaced_eq (p : Int32) (v : PropertyValue) :
    ∃ area, v.unplaced p = { v with area } := by
  by_cases h : v.prop = p
  · exact ⟨0, if_pos h⟩
  · exact ⟨v.area, unplaced_of_ne h⟩

/-- Without its area a value is of the same property. -/
@[simp] theorem prop_unplaced (v : PropertyValue) : (v.unplaced p).prop = v.prop := by
  obtain ⟨area, h⟩ := unplaced_eq p v
  rw [h]

/-- Without its area a value is of the same time. -/
@[simp] theorem timestamp_unplaced (v : PropertyValue) :
    (v.unplaced p).timestamp = v.timestamp := by
  obtain ⟨area, h⟩ := unplaced_eq p v
  rw [h]

/-- Without its area a value has the same status. -/
@[simp] theorem status_unplaced (v : PropertyValue) : (v.unplaced p).status = v.status := by
  obtain ⟨area, h⟩ := unplaced_eq p v
  rw [h]

/-- Without its area a value has the same payload. -/
@[simp] theorem payload_unplaced (v : PropertyValue) : (v.unplaced p).payload = v.payload := by
  obtain ⟨area, h⟩ := unplaced_eq p v
  rw [h]

/-- An area that is gone is gone. -/
@[simp] theorem unplaced_unplaced (v : PropertyValue) :
    (v.unplaced p).unplaced p = v.unplaced p := by
  by_cases h : v.prop = p
  · simp [unplaced, h]
  · rw [unplaced_of_ne h, unplaced_of_ne h]

/-- So it is for all values at once. -/
@[simp] theorem unplaced_comp_unplaced : unplaced p ∘ unplaced p = unplaced p :=
  funext unplaced_unplaced

/-- The status does not matter to the area. -/
theorem unplaced_withStatus (v : PropertyValue) (status : PropertyStatus) :
    ({ v with status } : PropertyValue).unplaced p = { v.unplaced p with status } := by
  unfold unplaced
  dsimp only
  split <;> rfl

/-- Values of the property have the same content without their areas exactly if they have the same
status and payload. -/
theorem sameContent_unplaced {v w : PropertyValue} (hv : v.prop = p) (hw : w.prop = p) :
    (v.unplaced p).sameContent (w.unplaced p) = (v.status = w.status && v.payload.same w.payload) := by
  simp [unplaced, sameContent, hv, hw]

end PropertyValue

/-- A record with the values of property `p` at area 0. -/
def Record.unplaced (p : Int32) (r : Record) : Record :=
  { r with values := r.values.mapValues (PropertyValue.unplaced p) }

/-- That the areas of values do not matter to their slots. -/
structure SlotRules.AreaBlind (rules : SlotRules) : Prop where
  /-- The property has one area. -/
  isGlobal : rules.config.isGlobal = true
  /-- The token of a value has nothing to do with its area. -/
  token : ∀ v area, rules.token { v with area } = rules.token v

/-- The rules that the bench uses do not look at areas. -/
theorem TokenRule.areaBlind {config : PropertyConfig} (h : config.isGlobal = true)
    {token : TokenRule} (ht : token ∈ [.single, .byTimestamp, .byFirstInt32]) :
    SlotRules.AreaBlind { config, token } := by
  refine ⟨h, fun v area => ?_⟩
  simp only [List.mem_cons, List.not_mem_nil, or_false] at ht
  rcases ht with rfl | rfl | rfl <;> rfl

namespace SlotRules.AreaBlind

variable {rules : SlotRules}

/-- All areas have one slot. -/
theorem slot (h : rules.AreaBlind) (area area' : Int32) (token : Int64) :
    rules.slot area token = rules.slot area' token := by simp [SlotRules.slot, h.isGlobal]

/-- All areas are allowed. -/
theorem allows (h : rules.AreaBlind) (area : Int32) : rules.config.allows area = true := by
  rw [PropertyConfig.allows, h.isGlobal, Bool.true_or]

/-- Without its area a value lies in the same slot. -/
theorem slotOf_unplaced (h : rules.AreaBlind) (v : PropertyValue) :
    rules.slotOf (v.unplaced p) = rules.slotOf v := by
  obtain ⟨area, hv⟩ := PropertyValue.unplaced_eq p v
  rw [SlotRules.slotOf, SlotRules.slotOf, hv, h.token]
  exact h.slot area v.area _

end SlotRules.AreaBlind

namespace Store

/-- An operation that names area 0 for property `p`. -/
def Operation.unplaced (p : Int32) : Operation → Operation
  | .write v updateStatus => .write (v.unplaced p) updateStatus
  | .remove v => .remove (v.unplaced p)
  | .read request => .read (request.unplaced p)
  | .readToken prop area token => .readToken prop (if prop = p then 0 else area) token
  | o => o

/-- That an operation, if it declares property `p`, makes no difference between its areas. -/
def Operation.AreaBlind (p : Int32) : Operation → Prop
  | .register c token => c.prop = p → SlotRules.AreaBlind { config := c, token }
  | _ => True

/-- Without areas an operation declares properties in the same way. -/
theorem Operation.areaBlind_unplaced (o : Operation) :
    (o.unplaced p).AreaBlind p ↔ o.AreaBlind p := by cases o <;> rfl

/-- An answer with the values of property `p` at area 0. -/
def Answer.unplaced (p : Int32) : Answer → Answer
  | .value v => .value (v.unplaced p)
  | .values vs => .values (vs.map (PropertyValue.unplaced p))
  | a => a

/-- What a report answers but for the areas of property `p` and the wording of a failure. -/
def Report.outcome (p : Int32) (r : Report) : Except StatusCode Answer :=
  (r.answer.mapError Failure.code).map (Answer.unplaced p)

/-- The outcome of an answer is the answer without areas. -/
@[simp] theorem Report.outcome_ok (p : Int32) (a : Answer) (change : Option PropertyValue) :
    Report.outcome p { answer := .ok a, change } = .ok (a.unplaced p) := rfl

/-- The outcome of a failure is its code. -/
@[simp] theorem Report.outcome_error (p : Int32) (e : Failure) (change : Option PropertyValue) :
    Report.outcome p { answer := .error e, change } = .error e.code := rfl

/-- That the areas of values do not matter to the slots of a property. -/
def AreaBlind (p : Int32) (s : Store) : Prop := ∀ rules, s.rules? p = some rules → rules.AreaBlind

/-- That a store is another one with the values of property `p` at area 0. -/
def Unplaces (p : Int32) (s t : Store) : Prop := t.records = s.records.mapValues (Record.unplaced p)

variable {s t : Store}

/-- The slot of a value is the slot of the value at area 0. -/
theorem AreaBlind.slotOf_unplaced (hb : s.AreaBlind p) {v : PropertyValue} {rules : SlotRules}
    (hrules : s.rules? v.prop = some rules) : rules.slotOf (v.unplaced p) = rules.slotOf v := by
  by_cases hv : v.prop = p
  · exact (hb rules (hv ▸ hrules)).slotOf_unplaced v
  · rw [PropertyValue.unplaced_of_ne hv]

namespace Unplaces

/-- Without areas the same properties have records. -/
theorem get?_records (h : Unplaces p s t) (prop : Int32) :
    t.records.get? prop = (s.records.get? prop).map (Record.unplaced p) := by
  rw [h, SortedMap.get?_mapValues]

/-- Without areas the same properties are declared. -/
theorem rules? (h : Unplaces p s t) (prop : Int32) : t.rules? prop = s.rules? prop := by
  rw [Store.rules?, Store.rules?, h.get?_records, Option.map_map]
  rfl

/-- Without areas each property is still found under its own id. -/
theorem keyed (h : Unplaces p s t) (hk : s.Keyed) : t.Keyed := fun prop r hr =>
  hk prop r (h.rules? prop ▸ hr)

/-- Without areas the same slots are filled. -/
theorem value? (h : Unplaces p s t) (prop : Int32) (slot : Slot) :
    t.value? prop slot = (s.value? prop slot).map (PropertyValue.unplaced p) := by
  rw [Store.value?, Store.value?, h.get?_records]
  cases s.records.get? prop with
  | none => rfl
  | some r => exact SortedMap.get?_mapValues _ r.values slot

/-- A record that is put into both stores, without areas into the other, keeps them apart in areas
only. -/
theorem giveUp_withRecord (h : Unplaces p s t) (r : Record) (vs vs' : List PropertyValue) :
    Unplaces p ((s.withRecord r).giveUp vs) ((t.withRecord (r.unplaced p)).giveUp vs') := by
  have hinsert := SortedMap.mapValues_insert (Record.unplaced p) s.records r.config.prop r
  exact (congrArg (SortedMap.insert · r.config.prop (r.unplaced p)) h).trans hinsert.symm

/-- Only the records matter for the difference in areas. -/
theorem of_records {s' t' : Store} (h : Unplaces p s t) (hs : s'.records = s.records)
    (ht : t'.records = t.records) : Unplaces p s' t' := by
  rw [Unplaces, hs, ht]
  exact h

/-- A declaration keeps the stores apart in areas only. -/
theorem register (h : Unplaces p s t) (config : PropertyConfig) (token : TokenRule) :
    Unplaces p (s.register config token) (t.register config token) := h.giveUp_withRecord _ _ _

/-- A value lies in the same slot of both stores. -/
theorem slotOf (hb : s.AreaBlind p) {v : PropertyValue} {r : Record}
    (hr : s.records.get? v.prop = some r) : (r.unplaced p).slotOf (v.unplaced p) = r.slotOf v :=
  hb.slotOf_unplaced (rules?_of_record hr)

/-- What is stored of a value at area 0. -/
theorem settled (old : Option PropertyValue) (v : PropertyValue) (updateStatus : Bool) :
    Store.settled (old.map (PropertyValue.unplaced p)) (v.unplaced p) updateStatus =
      (Store.settled old v updateStatus).unplaced p := by
  cases updateStatus with
  | true => rfl
  | false =>
    cases old with
    | none => exact (PropertyValue.unplaced_withStatus v .available).symm
    | some old =>
      have hstatus := PropertyValue.unplaced_withStatus (p := p) v old.status
      simpa [Store.settled] using hstatus.symm

/-- A write names an allowed area exactly if the write at area 0 does. -/
theorem allows (hb : s.AreaBlind p) {v : PropertyValue} {r : Record}
    (hr : s.records.get? v.prop = some r) :
    r.config.allows (v.unplaced p).area = r.config.allows v.area := by
  by_cases hv : v.prop = p
  · have hblind := hb r.rules (hv ▸ rules?_of_record hr)
    exact (hblind.allows _).trans (hblind.allows _).symm
  · rw [PropertyValue.unplaced_of_ne hv]

/-- A write and the write at area 0 are both rejected, for causes of one code, or both taken. -/
theorem write (h : Unplaces p s t) (hb : s.AreaBlind p) (v : PropertyValue) (updateStatus : Bool) :
    (∃ e e', s.write v updateStatus = .error e ∧ t.write (v.unplaced p) updateStatus = .error e' ∧
      e'.code = e.code) ∨
    ∃ s' t' change change', s.write v updateStatus = .ok (s', change) ∧
      t.write (v.unplaced p) updateStatus = .ok (t', change') ∧ Unplaces p s' t' := by
  cases hr : s.records.get? v.prop with
  | none =>
    have hs : s.rules? v.prop = none := rules?_eq_none.mpr hr
    have ht : t.rules? (v.unplaced p).prop = none := by rw [v.prop_unplaced, h.rules?, hs]
    exact .inl ⟨_, _, write_of_undeclared hs updateStatus, write_of_undeclared ht updateStatus, rfl⟩
  | some r =>
    have ht : t.records.get? (v.unplaced p).prop = some (r.unplaced p) := by
      rw [v.prop_unplaced, h.get?_records, hr, Option.map_some]
    have hold : (r.unplaced p).values.get? ((r.unplaced p).slotOf (v.unplaced p)) =
        (r.values.get? (r.slotOf v)).map (PropertyValue.unplaced p) := by
      rw [slotOf hb hr]
      exact SortedMap.get?_mapValues _ r.values _
    have hlate : ((r.values.get? (r.slotOf v)).map (PropertyValue.unplaced p)).any
          (fun old => (v.unplaced p).timestamp < old.timestamp) =
        (r.values.get? (r.slotOf v)).any fun old => v.timestamp < old.timestamp := by
      simp [Option.any_map]
    have hallows : (r.unplaced p).config.allows (v.unplaced p).area = r.config.allows v.area :=
      allows (r := r) hb hr
    rw [write_of_record hr, write_of_record ht, hallows, hold, hlate]
    split
    · exact .inl ⟨_, _, rfl, rfl, rfl⟩
    split
    · exact .inl ⟨_, _, rfl, rfl, rfl⟩
    · refine .inr ⟨_, _, _, _, rfl, rfl, ?_⟩
      have hvalues : (r.unplaced p).values.insert ((r.unplaced p).slotOf (v.unplaced p))
            (Store.settled ((r.values.get? (r.slotOf v)).map (PropertyValue.unplaced p))
              (v.unplaced p) updateStatus) =
          (r.values.insert (r.slotOf v)
            (Store.settled (r.values.get? (r.slotOf v)) v updateStatus)).mapValues
              (PropertyValue.unplaced p) := by
        rw [slotOf hb hr, settled, SortedMap.mapValues_insert]
        rfl
      rw [hvalues]
      exact h.giveUp_withRecord _ _ _

/-- A removal keeps the stores apart in areas only. -/
theorem remove (h : Unplaces p s t) (hb : s.AreaBlind p) (v : PropertyValue) :
    Unplaces p (s.remove v) (t.remove (v.unplaced p)) := by
  unfold Store.remove
  rw [v.prop_unplaced, h.get?_records]
  cases hr : s.records.get? v.prop with
  | none => exact h
  | some r =>
    have hold : (r.unplaced p).values.get? (r.slotOf v) =
        (r.values.get? (r.slotOf v)).map (PropertyValue.unplaced p) :=
      SortedMap.get?_mapValues _ r.values _
    dsimp only [Option.map_some]
    unfold removeSlot
    rw [slotOf hb hr, hold]
    cases r.values.get? (r.slotOf v) with
    | none => exact h
    | some old =>
      have hvalues : (r.unplaced p).values.erase (r.slotOf v) =
          (r.values.erase (r.slotOf v)).mapValues (PropertyValue.unplaced p) :=
        (SortedMap.mapValues_erase _ r.values _).symm
      dsimp only [Option.map_some]
      rw [hvalues]
      exact h.giveUp_withRecord _ _ _

/-- So does the removal of all values of a property. -/
theorem removeAll (h : Unplaces p s t) (prop : Int32) :
    Unplaces p (s.removeAll prop) (t.removeAll prop) := by
  unfold Store.removeAll
  rw [h.get?_records]
  cases s.records.get? prop with
  | none => exact h
  | some r => exact h.giveUp_withRecord { r with values := .empty } _ _

/-- An operation and the operation at area 0 leave stores that differ in areas at most. -/
theorem perform (h : Unplaces p s t) (hb : s.AreaBlind p) (o : Operation) :
    Unplaces p (s.perform o).2 (t.perform (o.unplaced p)).2 := by
  cases o with
  | register config token => exact h.register config token
  | write v updateStatus =>
    rcases h.write hb v updateStatus with ⟨e, e', hs, ht, -⟩ | ⟨s', t', c, c', hs, ht, hwritten⟩
    · simp only [Store.perform, Operation.unplaced, hs, ht]
      exact h
    · simp only [Store.perform, Operation.unplaced, hs, ht]
      exact hwritten
  | remove v => exact h.remove hb v
  | removeAll prop => exact h.removeAll prop
  | read request => exact h.of_records (s.records_handOut _) (t.records_handOut _)
  | readToken prop area token => exact h.of_records (s.records_handOut _) (t.records_handOut _)
  | valuesOf prop => exact h
  | allValues => exact h
  | config prop => exact h
  | configs => exact h

/-- The values of a record at area 0. -/
theorem values (r : Record) :
    (r.unplaced p).values.values = r.values.values.map (PropertyValue.unplaced p) :=
  SortedMap.values_mapValues _ r.values

/-- What is found in a slot of a store is found at area 0 in the other one. -/
theorem outcome_find (h : Unplaces p s t) {prop area area' : Int32} {slot slot' : SlotRules → Slot}
    (hslot : ∀ rules, s.rules? prop = some rules → slot' rules = slot rules)
    {found found' : Except Failure PropertyValue}
    (hs : found = match s.rules? prop with
      | none => Cause.fail (.notRegistered prop)
      | some rules =>
        match s.value? prop (slot rules) with
        | none => Cause.fail (.notWritten prop area)
        | some v => .ok v)
    (ht : found' = match t.rules? prop with
      | none => Cause.fail (.notRegistered prop)
      | some rules =>
        match t.value? prop (slot' rules) with
        | none => Cause.fail (.notWritten prop area')
        | some v => .ok v) :
    ({ answer := found'.map .value } : Report).outcome p =
      ({ answer := found.map .value } : Report).outcome p := by
  rw [hs, ht, h.rules?]
  cases hrules : s.rules? prop with
  | none => rfl
  | some rules =>
    dsimp only
    rw [hslot rules hrules, h.value?]
    cases s.value? prop (slot rules) with
    | none => rfl
    | some v => simp [Answer.unplaced, Except.map]

/-- An operation and the operation at area 0 answer alike, but for areas. -/
theorem outcome (h : Unplaces p s t) (hb : s.AreaBlind p) (o : Operation) :
    (t.perform (o.unplaced p)).1.outcome p = (s.perform o).1.outcome p := by
  cases o with
  | write v updateStatus =>
    rcases h.write hb v updateStatus with ⟨e, e', hs, ht, hcode⟩ | ⟨s', t', c, c', hs, ht, -⟩
    · simp only [Store.perform, Operation.unplaced, hs, ht, Report.outcome_error, hcode]
    · simp only [Store.perform, Operation.unplaced, hs, ht]
      rfl
  | read request =>
    have hfind := (t.fst_handOut _).trans (t.find_eq (request.unplaced p))
    rw [request.prop_unplaced] at hfind
    exact h.outcome_find (fun rules hrules => hb.slotOf_unplaced hrules)
      ((s.fst_handOut _).trans (s.find_eq request)) hfind
  | readToken prop area token =>
    have hslot (rules : SlotRules) (hrules : s.rules? prop = some rules) :
        rules.slot (if prop = p then 0 else area) token = rules.slot area token := by
      split
      · next hp => exact (hb rules (hp ▸ hrules)).slot _ _ token
      · rfl
    exact h.outcome_find hslot ((s.fst_handOut _).trans (s.findToken_eq prop area token))
      ((t.fst_handOut _).trans (t.findToken_eq prop _ token))
  | valuesOf prop =>
    have hrecord := h.get?_records prop
    simp only [Store.perform, Operation.unplaced, Store.valuesOf, Store.record, hrecord]
    cases s.records.get? prop with
    | none => rfl
    | some r =>
      simp [Answer.unplaced, Except.map, values, bind, Except.bind, pure, Except.pure]
  | allValues =>
    have hvalues : t.records.values = s.records.values.map (Record.unplaced p) := by
      rw [h, SortedMap.values_mapValues]
    simp [Store.perform, Operation.unplaced, Answer.unplaced, Store.allValues, hvalues,
      List.flatMap_map, List.map_flatMap, values]
  | config prop => simp only [Store.perform, Operation.unplaced, config_eq, h.rules?]
  | configs =>
    have hvalues : t.records.values = s.records.values.map (Record.unplaced p) := by
      rw [h, SortedMap.values_mapValues]
    have hconfig : Record.config ∘ Record.unplaced p = Record.config := rfl
    simp [Report.outcome, Store.perform, Operation.unplaced, Store.configs, hvalues, hconfig]
  | _ => rfl

end Unplaces

/-! ## Announcements -/

/-- That a value of property `p` repeats the status and the payload of what was there under another
area. -/
def Relocates (p : Int32) (old : Option PropertyValue) (v : PropertyValue) : Bool → Prop
  | true => False
  | false => v.prop = p ∧ ∃ w, old = some w ∧ w.area ≠ v.area ∧ w.payload.same v.payload = true

/-- A value that only has another area is a change, but none at area 0. -/
theorem isChange_of_relocates {old : Option PropertyValue} {v : PropertyValue} {updateStatus : Bool}
    (hold : ∀ w, old = some w → w.prop = v.prop) (h : Relocates p old v updateStatus) :
    isChange old (settled old v updateStatus) updateStatus = true ∧
      isChange (old.map (PropertyValue.unplaced p)) ((settled old v updateStatus).unplaced p)
        updateStatus = false := by
  cases updateStatus with
  | true => exact h.elim
  | false =>
    obtain ⟨hp, w, rfl, harea, hsame⟩ := h
    have hunplaced := PropertyValue.sameContent_unplaced (v := w)
      (w := { v with status := w.status }) ((hold w rfl).trans hp) hp
    constructor
    · simp [isChange, settled, PropertyValue.sameContent, harea]
    · simpa [isChange, settled, hsame] using hunplaced

/-- Any other value is a change exactly if it is one at area 0. -/
theorem isChange_of_not_relocates {old : Option PropertyValue} {v : PropertyValue}
    {updateStatus : Bool} (hold : ∀ w, old = some w → w.prop = v.prop)
    (h : ¬ Relocates p old v updateStatus) :
    isChange (old.map (PropertyValue.unplaced p)) ((settled old v updateStatus).unplaced p)
        updateStatus = isChange old (settled old v updateStatus) updateStatus := by
  cases old with
  | none => rfl
  | some w =>
    cases updateStatus with
    | true => rfl
    | false =>
      have hsettled : settled (some w) v false = { v with status := w.status } := rfl
      have hprop : w.prop = v.prop := hold w rfl
      rw [hsettled]
      by_cases hp : v.prop = p
      · have hunplaced := PropertyValue.sameContent_unplaced (v := w)
          (w := { v with status := w.status }) (hprop.trans hp) hp
        have hplaced : w.sameContent { v with status := w.status } =
            (w.area = v.area && w.payload.same v.payload) := by
          simp [PropertyValue.sameContent, hprop]
        simp only [isChange, Option.map_some, hunplaced, hplaced]
        by_cases harea : w.area = v.area
        · simp [harea]
        · have hsame : w.payload.same v.payload = false :=
            Bool.eq_false_iff.mpr fun hsame => h ⟨hp, w, rfl, harea, hsame⟩
          simp [hsame]
      · have hw : w.prop ≠ p := hprop ▸ hp
        have hv : ({ v with status := w.status } : PropertyValue).prop ≠ p := hp
        rw [Option.map_some, PropertyValue.unplaced_of_ne hw, PropertyValue.unplaced_of_ne hv]

/-- A taken write announces a change exactly if what it stores is one over what was there. -/
theorem Written.isSome_change {v : PropertyValue} {updateStatus : Bool}
    {change : Option PropertyValue} {rules : SlotRules}
    (hw : Written s v updateStatus t change rules) : change.isSome =
      isChange (s.value? v.prop (rules.slotOf v))
        (settled (s.value? v.prop (rules.slotOf v)) v updateStatus) updateStatus := by
  rw [hw.change_eq]
  dsimp only
  split
  · next h => rw [h, Option.isSome_some]
  · next h => rw [Bool.eq_false_iff.mpr h, Option.isSome_none]

namespace History

/-- That the areas of values do not matter to the slots of a property, as it was declared last. -/
def AreaBlind (p : Int32) (h : History) : Prop :=
  ∀ rules, h.rulesOf? p = some rules → rules.AreaBlind

/-- That an operation moves a value of property `p`: it is a write that the store takes, which leaves
the status alone and repeats the payload in its slot, but names another area. -/
def Moves (p : Int32) (h : History) : Operation → Prop
  | .write v false => v.prop = p ∧ ∃ rules last updateStatus earlier, h.rulesOf? p = some rules ∧
      h.writes rules p (rules.slotOf v) = (last, updateStatus) :: earlier ∧
      last.timestamp ≤ v.timestamp ∧ last.area ≠ v.area ∧ last.payload.same v.payload = true
  | _ => False

/-- What declares its properties blind to areas leaves them so. -/
theorem AreaBlind.cons {h : History} (hb : h.AreaBlind p) {o : Operation} (ho : o.AreaBlind p)
    (report : Report) : AreaBlind p ((o, report) :: h) := by
  cases o with
  | register config token =>
    intro rules hrules
    rw [rulesOf?] at hrules
    split at hrules
    · next hp =>
      cases hrules
      exact ho hp
    · exact hb rules hrules
  | _ => exact hb

/-- The writes to a slot of a property are writes of the property. -/
theorem prop_of_mem_writes {h : History} {rules : SlotRules} {prop : Int32} {slot : Slot}
    {w : PropertyValue × Bool} (hw : w ∈ h.writes rules prop slot) : w.1.prop = prop := by
  obtain ⟨e, -, he⟩ := List.mem_filterMap.mp hw
  unfold writeTo? at he
  split at he
  · split at he
    · next hhere =>
      cases he
      exact hhere.1
    · cases he
  · cases he

end History

open History

/-- A stored value is the last one written to its slot, but for the status. -/
theorem Records.last_of_value? {h : History} (hr : Records h s) {prop : Int32} {slot : Slot}
    {v : PropertyValue} (hv : s.value? prop slot = some v) :
    ∃ rules last updateStatus earlier, h.rulesOf? prop = some rules ∧
      h.writes rules prop slot = (last, updateStatus) :: earlier ∧ last.prop = prop ∧
      v = { last with status := status ((last, updateStatus) :: earlier) } := by
  cases hrules : s.rules? prop with
  | none =>
    rw [value?_of_undeclared hrules] at hv
    cases hv
  | some rules =>
    have hrules' : h.rulesOf? prop = some rules := hr.rules prop ▸ hrules
    rw [hr.value prop rules slot hrules'] at hv
    cases hws : h.writes rules prop slot with
    | nil =>
      rw [hws] at hv
      cases hv
    | cons w earlier =>
      have hw : w.1.prop = prop := prop_of_mem_writes (hws ▸ List.mem_cons_self)
      rw [hws] at hv
      exact ⟨rules, w.1, w.2, earlier, hrules', hws, hw, (Option.some.inj hv).symm⟩

/-- The values in the slots of a property are values of the property. -/
theorem Records.prop_of_value? {h : History} (hr : Records h s) {prop : Int32} {slot : Slot}
    {v : PropertyValue} (hv : s.value? prop slot = some v) : v.prop = prop := by
  obtain ⟨rules, last, updateStatus, earlier, -, -, hprop, rfl⟩ := hr.last_of_value? hv
  exact hprop

/-- A store with its history, and the store that the history leaves when it names area 0 for
property `p`. -/
structure Shadowed (p : Int32) (h : History) (s t : Store) : Prop where
  /-- The history of the store. -/
  records : Records h s
  /-- The areas of values do not matter to their slots. -/
  blind : h.AreaBlind p
  /-- The other store differs in areas at most. -/
  unplaces : Unplaces p s t

namespace Shadowed

variable {h : History}

/-- Before any operation both stores are empty. -/
theorem nil (p : Int32) (pool : ValuePool) : Shadowed p [] { pool } { pool } where
  records := records_nil pool
  blind _ hrules := nomatch hrules
  unplaces := rfl

/-- The areas do not matter to the slots of the store either. -/
theorem areaBlind (hs : Shadowed p h s t) : s.AreaBlind p := fun rules hrules =>
  hs.blind rules (hs.records.rules p ▸ hrules)

/-- An operation, named without areas to the other store, keeps it a shadow. -/
theorem perform (hs : Shadowed p h s t) {o : Operation} (ho : o.AreaBlind p) :
    Shadowed p ((o, (s.perform o).1) :: h) (s.perform o).2 (t.perform (o.unplaced p)).2 where
  records := hs.records.perform o
  blind := hs.blind.cons ho _
  unplaces := hs.unplaces.perform hs.areaBlind o

/-- So does any number of them. -/
theorem run (hs : Shadowed p h s t) {operations : List Operation}
    (ho : ∀ o ∈ operations, o.AreaBlind p) :
    Shadowed p ((operations.zip (s.run operations).1).reverse ++ h) (s.run operations).2
      (t.run (operations.map (Operation.unplaced p))).2 := by
  induction operations generalizing s t h with
  | nil => exact hs
  | cons o rest ih =>
    obtain ⟨hfirst, hothers⟩ := List.forall_mem_cons.mp ho
    have hrest := ih (hs.perform hfirst) hothers
    simp only [Store.run, List.zip_cons_cons, List.reverse_cons, List.append_assoc, List.map_cons]
    exact hrest

/-- A write moves a value exactly if the store takes it and it only has another area than what was
there. -/
theorem moves_iff (hs : Shadowed p h s t) {v : PropertyValue} {updateStatus : Bool} :
    h.Moves p (.write v updateStatus) ↔ s.Takes v ∧ ∃ rules, s.rules? v.prop = some rules ∧
      Relocates p (s.value? v.prop (rules.slotOf v)) v updateStatus := by
  cases updateStatus with
  | true => simp [Moves, Relocates]
  | false =>
    constructor
    · rintro ⟨rfl, rules, last, us, earlier, hrules, hws, hfresh, harea, hsame⟩
      have hvalue := hs.records.value v.prop rules (rules.slotOf v) hrules
      have hdeclared : s.rules? v.prop = some rules := (hs.records.rules v.prop).trans hrules
      rw [hws] at hvalue
      refine ⟨⟨rules, hdeclared, (hs.blind rules hrules).allows v.area, fun old hold => ?_⟩,
        rules, hdeclared, rfl, _, hvalue, harea, hsame⟩
      rw [hvalue] at hold
      cases hold
      exact hfresh
    · rintro ⟨⟨rules', hrules', -, hfresh⟩, rules, hrules, rfl, w, hw, harea, hsame⟩
      obtain rfl : rules' = rules := Option.some.inj (hrules'.symm.trans hrules)
      have hle : w.timestamp ≤ v.timestamp := hfresh w hw
      obtain ⟨rules'', last, us, earlier, hlast, hws, -, rfl⟩ := hs.records.last_of_value? hw
      obtain rfl : rules'' = rules' := by
        rw [hs.records.rules, hlast] at hrules
        exact Option.some.inj hrules
      exact ⟨rfl, rules'', last, us, earlier, hlast, hws, hle, harea, hsame⟩

/-- A write that is taken moves a value if it repeats what is in the slot under another area. -/
theorem moves_iff_of_taken (hs : Shadowed p h s t) {v : PropertyValue} {updateStatus : Bool}
    {rules : SlotRules} (htakes : s.Takes v) (hrules : s.rules? v.prop = some rules) :
    h.Moves p (.write v updateStatus) ↔
      Relocates p (s.value? v.prop (rules.slotOf v)) v updateStatus := by
  rw [hs.moves_iff]
  constructor
  · rintro ⟨-, rules', hrules', hr⟩
    obtain rfl := Option.some.inj (hrules'.symm.trans hrules)
    exact hr
  · exact fun hr => ⟨htakes, rules, hrules, hr⟩

/-- What an operation announces that moves a value is nothing at area 0. Any other operation
announces a change exactly if it does so at area 0. -/
theorem announces (hs : Shadowed p h s t) (o : Operation) :
    (h.Moves p o ∧ (s.perform o).1.change.isSome = true ∧
      (t.perform (o.unplaced p)).1.change.isSome = false) ∨
    ¬ h.Moves p o ∧
      (t.perform (o.unplaced p)).1.change.isSome = (s.perform o).1.change.isSome := by
  cases o with
  | write v updateStatus =>
    rcases hs.unplaces.write hs.areaBlind v updateStatus with
      ⟨e, e', hws, hwt, -⟩ | ⟨s', t', c, c', hws, hwt, -⟩
    · refine .inr ⟨fun hm => ?_, ?_⟩
      · obtain ⟨r, hr⟩ := (write_isOk_iff hs.records.keyed v updateStatus).mpr (hs.moves_iff.mp hm).1
        rw [hws] at hr
        cases hr
      · simp only [Store.perform, Operation.unplaced, hws, hwt]
    · obtain ⟨rules, hwritten⟩ := written_of_write hs.records.keyed hws
      obtain ⟨rules', hwritten'⟩ := written_of_write (hs.unplaces.keyed hs.records.keyed) hwt
      have hslot := hs.areaBlind.slotOf_unplaced hwritten.declared
      have hrules : rules' = rules := by
        have hdeclared := hwritten'.declared
        rw [v.prop_unplaced, hs.unplaces.rules?, hwritten.declared] at hdeclared
        exact (Option.some.inj hdeclared).symm
      subst hrules
      have hannounced := hwritten.isSome_change
      have hannounced' := hwritten'.isSome_change
      rw [v.prop_unplaced, hslot, hs.unplaces.value?, Unplaces.settled] at hannounced'
      simp only [Store.perform, Operation.unplaced, hws, hwt, hannounced, hannounced']
      have hold (w : PropertyValue) (hw : s.value? v.prop (rules'.slotOf v) = some w) :
          w.prop = v.prop := hs.records.prop_of_value? hw
      have htakes : s.Takes v := (write_isOk_iff hs.records.keyed v updateStatus).mp ⟨_, hws⟩
      have hmoves : h.Moves p (.write v updateStatus) ↔
          Relocates p (s.value? v.prop (rules'.slotOf v)) v updateStatus :=
        hs.moves_iff_of_taken htakes hwritten.declared
      by_cases hr : Relocates p (s.value? v.prop (rules'.slotOf v)) v updateStatus
      · exact .inl ⟨hmoves.mpr hr, isChange_of_relocates hold hr⟩
      · exact .inr ⟨mt hmoves.mp hr, isChange_of_not_relocates hold hr⟩
  | _ => exact .inr ⟨id, rfl⟩

/-- An announced change is the value that the slot holds then, also at area 0. -/
theorem value_of_announced (hs : Shadowed p h s t) {o : Operation} {c : PropertyValue}
    (hc : (s.perform o).1.change = some c) :
    ∃ v updateStatus rules, o.unplaced p = .write v updateStatus ∧ t.rules? v.prop = some rules ∧
      (t.perform (o.unplaced p)).2.value? v.prop (rules.slotOf v) = some (c.unplaced p) := by
  obtain ⟨v, updateStatus, rules, rfl, hrules, hvalue⟩ :=
    Store.value_of_announced hs.records.keyed hc
  have hafter := (hs.unplaces.perform hs.areaBlind (.write v updateStatus)).value? v.prop
    (rules.slotOf v)
  have hslot := hs.areaBlind.slotOf_unplaced hrules
  refine ⟨v.unplaced p, updateStatus, rules, rfl, ?_, ?_⟩
  · rw [v.prop_unplaced, hs.unplaces.rules?, hrules]
  · rw [v.prop_unplaced, hslot, hafter, hvalue, Option.map_some]

/-- Changes that two stores with one shadow announce differ in their areas at most. -/
theorem unplaced_eq_of_announced {h' : History} {s' : Store} (hs : Shadowed p h s t)
    (hs' : Shadowed p h' s' t) {o o' : Operation} (hsame : o.unplaced p = o'.unplaced p)
    {c c' : PropertyValue} (hc : (s.perform o).1.change = some c)
    (hc' : (s'.perform o').1.change = some c') : c.unplaced p = c'.unplaced p := by
  obtain ⟨v, us, rules, hv, hrules, hvalue⟩ := hs.value_of_announced hc
  obtain ⟨v', us', rules', hv', hrules', hvalue'⟩ := hs'.value_of_announced hc'
  rw [← hsame, hv] at hv'
  cases hv'
  obtain rfl := Option.some.inj (hrules.symm.trans hrules')
  rw [← hsame, hvalue] at hvalue'
  exact Option.some.inj hvalue'

/-- Two stores with one shadow announce the same, but for areas, exactly if both operations move a
value or neither does. -/
theorem announces_alike_iff {h' : History} {s' : Store} (hs : Shadowed p h s t)
    (hs' : Shadowed p h' s' t) {o o' : Operation} (hsame : o.unplaced p = o'.unplaced p) :
    (s.perform o).1.change.map (PropertyValue.unplaced p) =
        (s'.perform o').1.change.map (PropertyValue.unplaced p) ↔
      (h.Moves p o ↔ h'.Moves p o') := by
  have hboth : (s.perform o).1.change.map (PropertyValue.unplaced p) =
        (s'.perform o').1.change.map (PropertyValue.unplaced p) ↔
      (s.perform o).1.change.isSome = (s'.perform o').1.change.isSome := by
    cases hc : (s.perform o).1.change with
    | none => cases (s'.perform o').1.change <;> simp
    | some c =>
      cases hc' : (s'.perform o').1.change with
      | none => simp
      | some c' => simp [unplaced_eq_of_announced hs hs' hsame hc hc']
  rw [hboth]
  have hannounces := hs.announces o
  have hannounces' := hs'.announces o'
  rw [← hsame] at hannounces'
  grind

/-- A history that declares no areas of the property has a shadow. -/
theorem history (pool : ValuePool) {past : List Operation} (hpast : ∀ o ∈ past, o.AreaBlind p) :
    Shadowed p (history pool past) (Store.run { pool } past).2
      (Store.run { pool } (past.map (Operation.unplaced p))).2 := by
  have h := (nil p pool).run hpast
  rwa [List.append_nil] at h

end Shadowed

/-- An announced change has the area that the write named. -/
theorem Written.area_of_change {v c : PropertyValue} {updateStatus : Bool} {rules : SlotRules}
    (h : Written s v updateStatus t (some c) rules) : c.area = v.area := by
  have hchange := h.change_eq
  dsimp only at hchange
  split at hchange
  · obtain ⟨status, hsettled⟩ := settled_eq (s.value? v.prop (rules.slotOf v)) v updateStatus
    rw [Option.some.inj hchange, hsettled]
  · cases hchange

/-- A change is announced with the area of the writer. -/
theorem area_of_announced (hk : s.Keyed) {v c : PropertyValue} {updateStatus : Bool}
    (hc : (s.perform (.write v updateStatus)).1.change = some c) : c.area = v.area := by
  cases hw : s.write v updateStatus with
  | error e =>
    simp only [perform, hw] at hc
    cases hc
  | ok r =>
    obtain ⟨t, change⟩ := r
    simp only [perform, hw] at hc
    subst hc
    obtain ⟨rules, hwritten⟩ := written_of_write hk hw
    exact hwritten.area_of_change

/-- How far the areas of a global property matter. After two histories that differ only in the areas
that they name for it, operations that differ only in such areas have the same outcome, but for the
areas of the values in it. They announce the same, again but for areas, exactly if both move a value
or neither does: what repeats the payload in its slot under another area is announced, with the area
that the write named. A read shows the area of the last write that was taken. -/
theorem area_ignored_iff (pool : ValuePool) (p : Int32) {past past' : List Operation}
    (hpast : ∀ o ∈ past, o.AreaBlind p)
    (hsame : past.map (Operation.unplaced p) = past'.map (Operation.unplaced p)) :
    let h := history pool past
    let h' := history pool past'
    let s := (run { pool } past).2
    let s' := (run { pool } past').2
    (∀ o o', o.unplaced p = o'.unplaced p →
      (s.perform o).1.outcome p = (s'.perform o').1.outcome p ∧
      ((s.perform o).1.change.map (PropertyValue.unplaced p) =
          (s'.perform o').1.change.map (PropertyValue.unplaced p) ↔
        (h.Moves p o ↔ h'.Moves p o'))) ∧
    (∀ v, h.Moves p (.write v false) →
      ∃ c, (s.perform (.write v false)).1.change = some c ∧ c.area = v.area) ∧
    ∀ request rules last updateStatus earlier, request.prop = p → h.rulesOf? p = some rules →
      h.writes rules p (rules.slotOf request) = (last, updateStatus) :: earlier →
      ∃ v, (s.read request).1 = .ok v ∧ v.area = last.area := by
  intro h h' s s'
  have hpast' (o : Operation) (ho : o ∈ past') : o.AreaBlind p := by
    have hmem : o.unplaced p ∈ past.map (Operation.unplaced p) :=
      hsame ▸ List.mem_map_of_mem ho
    obtain ⟨o', ho', heq⟩ := List.mem_map.mp hmem
    exact o.areaBlind_unplaced.mp (heq ▸ o'.areaBlind_unplaced.mpr (hpast o' ho'))
  have hs := Shadowed.history pool hpast
  have hs' := Shadowed.history pool hpast'
  rw [← hsame] at hs'
  refine ⟨fun o o' ho => ⟨?_, hs.announces_alike_iff hs' ho⟩, fun v hm => ?_, ?_⟩
  · have houtcome := hs.unplaces.outcome hs.areaBlind o
    have houtcome' := hs'.unplaces.outcome hs'.areaBlind o'
    rw [← houtcome, ← houtcome', ho]
  · rcases hs.announces (.write v false) with ⟨-, hsome, -⟩ | ⟨hno, -⟩
    · obtain ⟨c, hc⟩ := Option.isSome_iff_exists.mp hsome
      exact ⟨c, hc, area_of_announced hs.records.keyed hc⟩
    · exact (hno hm).elim
  · intro request rules last updateStatus earlier hprop hrules hws
    subst hprop
    have hrecalled : Recalled h request.prop (fun rules => rules.slotOf request)
        (s.read request).1 := by
      rw [read, fst_handOut, find_eq]
      exact hs.records.recalled request.area fun rules => rules.slotOf request
    exact ⟨_, hrecalled.written rules last updateStatus earlier hrules hws, rfl⟩

/-- A global property that was written under an area. -/
def writtenUnder (area : Int32) : List Operation :=
  [.register { prop := 4, type := .int32 } .single,
    .write { prop := 4, area, payload := { int32s := [1] } } false]

/-- The same write is announced after the one history and not after the other. -/
theorem area_ignored_of_rewritten :
    let v : PropertyValue := { prop := 4, area := 3, timestamp := 1, payload := { int32s := [1] } }
    let s := (run { pool := {} } (writtenUnder 0)).2
    let s' := (run { pool := {} } (writtenUnder 3)).2
    (∀ o ∈ writtenUnder 0, o.AreaBlind 4) ∧
    (writtenUnder 0).map (Operation.unplaced 4) = (writtenUnder 3).map (Operation.unplaced 4) ∧
    (s.perform (.write v false)).1.change.map (PropertyValue.unplaced 4) ≠
      (s'.perform (.write v false)).1.change.map (PropertyValue.unplaced 4) ∧
    (s.perform (.write v false)).1.change = some v ∧
    ∃ found, (s'.read { prop := 4 }).1 = .ok found ∧ found.area = 3 := by
  intro v s s'
  have hblind (area : Int32) : ∀ o ∈ writtenUnder area, o.AreaBlind 4 := by
    intro o ho
    simp only [writtenUnder, List.mem_cons, List.not_mem_nil, or_false] at ho
    rcases ho with rfl | rfl
    · exact fun _ => TokenRule.areaBlind rfl List.mem_cons_self
    · trivial
  have hsame : (writtenUnder 0).map (Operation.unplaced 4) =
      (writtenUnder 3).map (Operation.unplaced 4) := rfl
  have hmoves : (history {} (writtenUnder 0)).Moves 4 (.write v false) :=
    ⟨rfl, _, _, _, _, rfl, rfl, by decide, by decide, by decide⟩
  have hstays : ¬ (history {} (writtenUnder 3)).Moves 4 (.write v false) := by
    rintro ⟨-, rules, last, us, earlier, hrules, hws, -, harea, -⟩
    cases hrules
    cases hws
    exact harea rfl
  obtain ⟨halike, htold, -⟩ := area_ignored_iff {} 4 (hblind 0) hsame
  obtain ⟨-, -, hread⟩ := area_ignored_iff {} 4 (hblind 3) hsame.symm
  refine ⟨hblind 0, hsame, ?_, rfl, hread { prop := 4 } _ _ _ _ rfl rfl rfl⟩
  rw [ne_eq, (halike _ _ rfl).2]
  exact fun hboth => hstays (hboth.mp hmoves)

end Store

end BenchVehicle
