import BenchVehicle.Store.Operation

/-!
# The store as slots

What a store looks like from outside: the rules under which each property is declared, and the
value in each slot. Each operation has a law that says what it does to both. Nothing else of a
store shows in what it answers, so later proofs need not look into its records.
-/

namespace BenchVehicle

/-- That an operation fails, and which code a client gets for it. -/
def FailsWith {α : Type} (code : StatusCode) (result : Except Failure α) : Prop :=
  ∃ e, result = .error e ∧ e.code = code

/-- A cause fails with its own code. -/
theorem failsWith_fail {α : Type} {code : StatusCode} (c : Cause) :
    FailsWith code (c.fail : Except Failure α) ↔ c.code = code := by
  constructor
  · rintro ⟨e, he, hcode⟩
    cases he
    exact hcode
  · intro hcode
    exact ⟨_, rfl, hcode⟩

/-- What is found fails with no code. -/
theorem not_failsWith_ok {α : Type} {code : StatusCode} (a : α) :
    ¬ FailsWith code (.ok a : Except Failure α) := by
  rintro ⟨e, he, -⟩
  cases he

/-- Under which rules the values of a property are stored. -/
structure SlotRules where
  /-- The declaration. -/
  config : PropertyConfig
  /-- What tells the values of one area apart. -/
  token : TokenRule

namespace SlotRules

/-- The slot of an area and a token. A global property has area 0 only. -/
def slot (r : SlotRules) (area : Int32) (token : Int64) : Slot :=
  { area := if r.config.isGlobal then 0 else area, token }

/-- The slot of a value. -/
def slotOf (r : SlotRules) (v : PropertyValue) : Slot := r.slot v.area (r.token v)

end SlotRules

/-- The rules of a record. -/
def Record.rules (r : Record) : SlotRules := { config := r.config, token := r.token }

/-- The slots of a record are those of its rules. -/
theorem Record.slot_eq (r : Record) (area : Int32) (token : Int64) :
    r.slot area token = r.rules.slot area token := rfl

/-- A value lies in a record where its rules say. -/
theorem Record.slotOf_eq (r : Record) (v : PropertyValue) : r.slotOf v = r.rules.slotOf v := rfl

namespace Store

variable {s t : Store}

/-- The rules of a property, if it is declared. -/
def rules? (s : Store) (prop : Int32) : Option SlotRules := (s.records.get? prop).map Record.rules

/-- The value in a slot of a property. -/
def value? (s : Store) (prop : Int32) (slot : Slot) : Option PropertyValue :=
  (s.records.get? prop).bind fun r => r.values.get? slot

/-- Each property is found under its own id. -/
def Keyed (s : Store) : Prop := ∀ prop r, s.rules? prop = some r → r.config.prop = prop

/-- That a property is declared global. -/
def Global (s : Store) (prop : Int32) : Prop :=
  ∃ rules, s.rules? prop = some rules ∧ rules.config.isGlobal = true

/-- Two stores that look the same. -/
structure Same (s t : Store) : Prop where
  /-- The same properties are declared, in the same way. -/
  rules : ∀ prop, t.rules? prop = s.rules? prop
  /-- The same values are stored. -/
  value : ∀ prop slot, t.value? prop slot = s.value? prop slot

/-- Stores with the same records look the same. -/
theorem Same.of_records (h : t.records = s.records) : Same s t where
  rules prop := by rw [rules?, rules?, h]
  value prop slot := by rw [value?, value?, h]

/-- A store looks like itself. -/
theorem Same.refl (s : Store) : Same s s := .of_records rfl

/-- What looks the same as the second looks the same as the first. -/
theorem Same.trans {u : Store} (h : Same s t) (h' : Same t u) : Same s u where
  rules prop := (h'.rules prop).trans (h.rules prop)
  value prop slot := (h'.value prop slot).trans (h.value prop slot)

/-- Where everything looks the same each property is found under its own id. -/
theorem Same.keyed (h : Same s t) (hk : s.Keyed) : t.Keyed := fun prop r hr =>
  hk prop r (h.rules prop ▸ hr)

/-- In an empty store nothing is found under a wrong id. -/
theorem keyed_empty (pool : ValuePool) : Keyed { pool } := fun _ _ hr => nomatch hr

/-- The rules of a property are those of its record. -/
theorem rules?_of_record {prop : Int32} {r : Record} (h : s.records.get? prop = some r) :
    s.rules? prop = some r.rules := by rw [rules?, h, Option.map_some]

/-- The values of a property are those of its record. -/
theorem value?_of_record {prop : Int32} {r : Record} (h : s.records.get? prop = some r)
    (slot : Slot) : s.value? prop slot = r.values.get? slot := by rw [value?, h, Option.bind_some]

/-- A property that has rules has a record. -/
theorem record_of_rules? {prop : Int32} {rules : SlotRules} (h : s.rules? prop = some rules) :
    ∃ r, s.records.get? prop = some r ∧ r.rules = rules := Option.map_eq_some_iff.mp h

/-- A property without rules has no record. -/
theorem rules?_eq_none {prop : Int32} : s.rules? prop = none ↔ s.records.get? prop = none :=
  Option.map_eq_none_iff

/-- Nothing is stored of a property that is not declared. -/
theorem value?_of_undeclared {prop : Int32} (h : s.rules? prop = none) (slot : Slot) :
    s.value? prop slot = none := by rw [value?, rules?_eq_none.mp h, Option.bind_none]

/-! ## Records -/

/-- A record that is put in is found under its property, and the others stay. -/
theorem get?_giveUp_withRecord (s : Store) (r : Record) (vs : List PropertyValue) (prop : Int32) :
    ((s.withRecord r).giveUp vs).records.get? prop =
      if prop = r.config.prop then some r else s.records.get? prop :=
  SortedMap.get?_insert s.records r.config.prop prop r

/-- The rules of a record that is put in are those of its property. -/
theorem rules?_giveUp_withRecord (s : Store) (r : Record) (vs : List PropertyValue) (prop : Int32) :
    ((s.withRecord r).giveUp vs).rules? prop =
      if prop = r.config.prop then some r.rules else s.rules? prop := by
  rw [rules?, get?_giveUp_withRecord]
  split <;> rfl

/-- The values of a record that is put in are those of its property. -/
theorem value?_giveUp_withRecord (s : Store) (r : Record) (vs : List PropertyValue) (prop : Int32)
    (slot : Slot) :
    ((s.withRecord r).giveUp vs).value? prop slot =
      if prop = r.config.prop then r.values.get? slot else s.value? prop slot := by
  rw [value?, get?_giveUp_withRecord]
  split <;> rfl

/-- A record that replaces one with the same rules changes no rules. -/
theorem rules?_replace {r r' : Record} (hk : s.Keyed) {prop : Int32}
    (hr : s.records.get? prop = some r) (hrules : r'.rules = r.rules) (vs : List PropertyValue)
    (p : Int32) : ((s.withRecord r').giveUp vs).rules? p = s.rules? p := by
  have hr? := rules?_of_record hr
  have hprop : r'.config.prop = prop := hk prop _ (hrules ▸ hr?)
  rw [rules?_giveUp_withRecord, hprop]
  split
  · next h => rw [h, hr?, hrules]
  · rfl

/-! ## Declaring -/

/-- A declaration sets the rules of its property. -/
theorem rules?_register (s : Store) (config : PropertyConfig) (token : TokenRule) (prop : Int32) :
    (s.register config token).rules? prop =
      if prop = config.prop then some { config, token } else s.rules? prop :=
  rules?_giveUp_withRecord s { config, token } _ prop

/-- A declaration forgets the values of its property. -/
theorem value?_register (s : Store) (config : PropertyConfig) (token : TokenRule) (prop : Int32)
    (slot : Slot) :
    (s.register config token).value? prop slot =
      if prop = config.prop then none else s.value? prop slot :=
  value?_giveUp_withRecord s { config, token } _ prop slot

/-- A declaration brings no values. -/
theorem kept_of_register {config : PropertyConfig} {token : TokenRule} {prop : Int32} {slot : Slot}
    {v : PropertyValue} (h : (s.register config token).value? prop slot = some v) :
    s.value? prop slot = some v := by
  rw [value?_register] at h
  split at h
  · cases h
  · exact h

/-- A declaration is found under its own id. -/
theorem Keyed.register (hk : s.Keyed) (config : PropertyConfig) (token : TokenRule) :
    (s.register config token).Keyed := by
  intro prop r hr
  rw [rules?_register] at hr
  split at hr
  · next h =>
    cases hr
    exact h.symm
  · exact hk prop r hr

/-! ## Writing -/

/-- Whether the store takes a value: its property is declared, its area is allowed, and the value
in its slot, if there is one, is not newer. -/
def Takes (s : Store) (v : PropertyValue) : Prop :=
  ∃ rules, s.rules? v.prop = some rules ∧ rules.config.allows v.area = true ∧
    ∀ old, s.value? v.prop (rules.slotOf v) = some old → old.timestamp ≤ v.timestamp

/-- What a write does that the store takes. -/
structure Written (s : Store) (v : PropertyValue) (updateStatus : Bool) (t : Store)
    (change : Option PropertyValue) (rules : SlotRules) : Prop where
  /-- The rules of the property. -/
  declared : s.rules? v.prop = some rules
  /-- The area is one of the property's. -/
  allowed : rules.config.allows v.area = true
  /-- The value that was there is not newer. -/
  fresh : ∀ old, s.value? v.prop (rules.slotOf v) = some old → old.timestamp ≤ v.timestamp
  /-- The rules stay as they are. -/
  rules_eq : ∀ prop, t.rules? prop = s.rules? prop
  /-- The slot holds the value, and every other slot what it held. -/
  value_eq : ∀ prop slot, t.value? prop slot =
    if prop = v.prop ∧ slot = rules.slotOf v then
      some (settled (s.value? v.prop (rules.slotOf v)) v updateStatus)
    else s.value? prop slot
  /-- The change to announce. -/
  change_eq : change =
    let stored := settled (s.value? v.prop (rules.slotOf v)) v updateStatus
    if isChange (s.value? v.prop (rules.slotOf v)) stored updateStatus then some stored else none

/-- A write of a property that is not declared is refused. -/
theorem write_of_undeclared {v : PropertyValue} (h : s.rules? v.prop = none) (updateStatus : Bool) :
    s.write v updateStatus = Cause.fail (.notRegistered v.prop) := by
  unfold write record
  rw [rules?_eq_none.mp h]
  rfl

/-- A write of a declared property, as its record decides it. -/
theorem write_of_record {v : PropertyValue} {r : Record} (hr : s.records.get? v.prop = some r)
    (updateStatus : Bool) :
    s.write v updateStatus =
      if !r.config.allows v.area then Cause.fail (.areaNotDeclared v.prop v.area)
      else if (r.values.get? (r.slotOf v)).any fun old => v.timestamp < old.timestamp then
        Cause.fail (.outdated v.timestamp v.prop)
      else
        let stored := settled (r.values.get? (r.slotOf v)) v updateStatus
        .ok ((s.withRecord { r with values := r.values.insert (r.slotOf v) stored }).giveUp
            (r.values.get? (r.slotOf v)).toList,
          if isChange (r.values.get? (r.slotOf v)) stored updateStatus then some stored
          else none) := by
  unfold write record
  rw [hr]
  rfl

/-- A write that the store does not take fails for a fault in the request. -/
theorem write_rejected {v : PropertyValue} (h : ¬ s.Takes v) (updateStatus : Bool) :
    FailsWith .invalidArg (s.write v updateStatus) := by
  cases hr : s.records.get? v.prop with
  | none => exact ⟨_, write_of_undeclared (rules?_eq_none.mpr hr) updateStatus, rfl⟩
  | some r =>
    rw [write_of_record hr]
    cases ha : r.config.allows v.area with
    | false => exact ⟨_, rfl, rfl⟩
    | true =>
      have hold : (r.values.get? (r.slotOf v)).any (fun old => v.timestamp < old.timestamp) := by
        apply Classical.byContradiction
        intro hno
        refine h ⟨r.rules, rules?_of_record hr, ha, fun old hold => ?_⟩
        rw [value?_of_record hr, ← r.slotOf_eq] at hold
        rw [hold] at hno
        simpa using hno
      rw [if_neg (by decide), if_pos hold]
      exact ⟨_, rfl, rfl⟩

/-- A write that the store takes. -/
theorem write_taken (hk : s.Keyed) {v : PropertyValue} (h : s.Takes v) (updateStatus : Bool) :
    ∃ t change rules, s.write v updateStatus = .ok (t, change) ∧
      Written s v updateStatus t change rules := by
  obtain ⟨rules, hrules, hallowed, hfresh⟩ := h
  obtain ⟨r, hr, rfl⟩ := record_of_rules? hrules
  have hprop : r.config.prop = v.prop := hk v.prop _ hrules
  have hvalue := value?_of_record hr (r.rules.slotOf v)
  have hold : ¬ (r.values.get? (r.slotOf v)).any (fun old => v.timestamp < old.timestamp) := by
    rw [Option.any_eq_true]
    rintro ⟨old, hold, hlt⟩
    have hle := hfresh old (hvalue.trans hold)
    exact absurd (of_decide_eq_true hlt) (Int64.not_lt.mpr hle)
  have hwrite := write_of_record hr updateStatus
  rw [show r.config.allows v.area = true from hallowed, if_neg (by decide), if_neg hold] at hwrite
  refine ⟨_, _, r.rules, hwrite, hrules, hallowed, hfresh, ?_, ?_, ?_⟩
  · intro p
    refine rules?_replace hk hr ?_ _ p
    rfl
  · intro p slot
    rw [value?_giveUp_withRecord, hprop, SortedMap.get?_insert, hvalue, r.slotOf_eq]
    by_cases hp : p = v.prop
    · subst hp
      simp [value?_of_record hr]
    · simp [hp]
  · rw [hvalue, r.slotOf_eq]

/-- A write succeeds exactly if the store takes the value. -/
theorem write_isOk_iff (hk : s.Keyed) (v : PropertyValue) (updateStatus : Bool) :
    (∃ r, s.write v updateStatus = .ok r) ↔ s.Takes v := by
  constructor
  · rintro ⟨r, hr⟩
    apply Classical.byContradiction
    intro hno
    obtain ⟨e, he, -⟩ := write_rejected hno updateStatus
    rw [hr] at he
    cases he
  · intro h
    obtain ⟨t, change, -, hw, -⟩ := write_taken hk h updateStatus
    exact ⟨_, hw⟩

/-- What a write did that succeeded. -/
theorem written_of_write (hk : s.Keyed) {v : PropertyValue} {updateStatus : Bool}
    {change : Option PropertyValue} (h : s.write v updateStatus = .ok (t, change)) :
    ∃ rules, Written s v updateStatus t change rules := by
  have htakes : s.Takes v := (write_isOk_iff hk v updateStatus).mp ⟨_, h⟩
  obtain ⟨t', change', rules, hw, hwritten⟩ := write_taken hk htakes updateStatus
  rw [h] at hw
  cases hw
  exact ⟨rules, hwritten⟩

/-- What is stored of a value differs from it in the status at most. -/
theorem settled_eq (old : Option PropertyValue) (v : PropertyValue) (updateStatus : Bool) :
    ∃ status, settled old v updateStatus = { v with status } := by
  cases updateStatus with
  | true => exact ⟨v.status, rfl⟩
  | false => exact ⟨_, rfl⟩

/-- The announced change is one of the property. -/
theorem Written.prop_of_change {v c : PropertyValue} {updateStatus : Bool} {rules : SlotRules}
    (h : Written s v updateStatus t (some c) rules) : c.prop = v.prop := by
  have hchange := h.change_eq
  dsimp only at hchange
  split at hchange
  · obtain ⟨status, hsettled⟩ := settled_eq (s.value? v.prop (rules.slotOf v)) v updateStatus
    rw [Option.some.inj hchange, hsettled]
  · cases hchange

/-- After a write each property is still found under its own id. -/
theorem Written.keyed {v : PropertyValue} {updateStatus : Bool} {change : Option PropertyValue}
    {rules : SlotRules} (h : Written s v updateStatus t change rules) (hk : s.Keyed) : t.Keyed :=
  fun prop r hr => hk prop r (h.rules_eq prop ▸ hr)

/-! ## Removing -/

/-- A removal leaves the declarations as they are. -/
theorem rules?_remove (hk : s.Keyed) (v : PropertyValue) (prop : Int32) :
    (s.remove v).rules? prop = s.rules? prop := by
  unfold remove removeSlot
  split
  · next r hr =>
    split
    · refine rules?_replace hk hr ?_ _ prop
      rfl
    · rfl
  · rfl

/-- After a removal each property is still found under its own id. -/
theorem Keyed.remove (hk : s.Keyed) (v : PropertyValue) : (s.remove v).Keyed := fun prop r h =>
  hk prop r (rules?_remove hk v prop ▸ h)

/-- A removal empties the slot of the value and leaves every other slot as it is. -/
theorem value?_remove (hk : s.Keyed) (v : PropertyValue) (prop : Int32) (slot : Slot) :
    (s.remove v).value? prop slot =
      if prop = v.prop ∧ (s.rules? v.prop).any (fun r => slot = r.slotOf v) then none
      else s.value? prop slot := by
  unfold remove removeSlot
  split
  · next r hr =>
    have hprop : r.config.prop = v.prop := hk v.prop _ (rules?_of_record hr)
    rw [rules?_of_record hr]
    split
    · rw [value?_giveUp_withRecord, hprop, SortedMap.get?_erase, r.slotOf_eq]
      by_cases hp : prop = v.prop
      · subst hp
        simp [value?_of_record hr]
      · simp [hp]
    · next hnone =>
      rw [r.slotOf_eq] at hnone
      split
      · next h =>
        obtain ⟨rfl, hslot⟩ := h
        obtain rfl : slot = r.rules.slotOf v := by simpa using hslot
        rw [value?_of_record hr, hnone]
      · rfl
  · next hr =>
    rw [rules?_eq_none.mpr hr]
    simp

/-- A removal brings no values. -/
theorem kept_of_remove (hk : s.Keyed) {v w : PropertyValue} {prop : Int32} {slot : Slot}
    (h : (s.remove v).value? prop slot = some w) : s.value? prop slot = some w := by
  rw [value?_remove hk] at h
  split at h
  · cases h
  · exact h

/-- The removal of all values of a property leaves the declarations as they are. -/
theorem rules?_removeAll (hk : s.Keyed) (p : Int32) (prop : Int32) :
    (s.removeAll p).rules? prop = s.rules? prop := by
  unfold removeAll
  split
  · next r hr =>
    refine rules?_replace hk hr ?_ _ prop
    rfl
  · rfl

/-- After it each property is still found under its own id. -/
theorem Keyed.removeAll (hk : s.Keyed) (p : Int32) : (s.removeAll p).Keyed := fun prop r h =>
  hk prop r (rules?_removeAll hk p prop ▸ h)

/-- Removing all values of a property leaves every other property as it is. -/
theorem value?_removeAll (hk : s.Keyed) (p : Int32) (prop : Int32) (slot : Slot) :
    (s.removeAll p).value? prop slot = if prop = p then none else s.value? prop slot := by
  unfold removeAll
  split
  · next r hr =>
    have hprop : r.config.prop = p := hk p _ (rules?_of_record hr)
    rw [value?_giveUp_withRecord, hprop]
    rfl
  · next hr =>
    split
    · next h => rw [h, value?_of_undeclared (rules?_eq_none.mpr hr)]
    · rfl

/-- What is left after it was there before. -/
theorem kept_of_removeAll (hk : s.Keyed) {p prop : Int32} {slot : Slot} {v : PropertyValue}
    (h : (s.removeAll p).value? prop slot = some v) : s.value? prop slot = some v := by
  rw [value?_removeAll hk] at h
  split at h
  · cases h
  · exact h

/-! ## Removing and writing -/

/-- A value that is written where one was just removed is always new. -/
theorem rewrite_taken (hk : s.Keyed) {v : PropertyValue} {rules : SlotRules}
    (hrules : s.rules? v.prop = some rules) (hallowed : rules.config.allows v.area = true) :
    ∃ t, (s.remove v).write v false = .ok (t, some { v with status := .available }) ∧
      (∀ prop, t.rules? prop = s.rules? prop) ∧
      ∀ prop slot, t.value? prop slot =
        if prop = v.prop ∧ slot = rules.slotOf v then some { v with status := .available }
        else s.value? prop slot := by
  have hempty : (s.remove v).value? v.prop (rules.slotOf v) = none := by
    rw [value?_remove hk, hrules]
    simp
  have htakes : (s.remove v).Takes v := by
    refine ⟨rules, (rules?_remove hk v _).trans hrules, hallowed, fun old hold => ?_⟩
    rw [hempty] at hold
    cases hold
  obtain ⟨t, change, rules', hwrite, hwritten⟩ := write_taken (hk.remove v) htakes false
  have hsame : rules' = rules := by
    have hdeclared := hwritten.declared
    rw [rules?_remove hk, hrules] at hdeclared
    exact (Option.some.inj hdeclared).symm
  subst hsame
  have hchange : change = some { v with status := .available } := by
    rw [hwritten.change_eq, hempty]
    rfl
  subst hchange
  refine ⟨t, hwrite, fun prop => ?_, fun prop slot => ?_⟩
  · rw [hwritten.rules_eq, rules?_remove hk]
  · rw [hwritten.value_eq, hempty]
    by_cases hhere : prop = v.prop ∧ slot = rules'.slotOf v
    · rw [if_pos hhere, if_pos hhere]
      rfl
    · rw [if_neg hhere, if_neg hhere, value?_remove hk, hrules]
      exact if_neg fun h => hhere ⟨h.1, of_decide_eq_true h.2⟩

/-- A value that is not allowed where it goes is not written there, even if nothing is. -/
theorem rewrite_rejected (hk : s.Keyed) {v : PropertyValue}
    (h : ∀ rules, s.rules? v.prop = some rules → rules.config.allows v.area = false) :
    ∃ e, (s.remove v).write v false = .error e := by
  have hnot : ¬ (s.remove v).Takes v := by
    rintro ⟨rules, hrules, hallowed, -⟩
    rw [rules?_remove hk] at hrules
    rw [h rules hrules] at hallowed
    cases hallowed
  obtain ⟨e, he, -⟩ := write_rejected hnot false
  exact ⟨e, he⟩

/-! ## Other properties -/

/-- A removal leaves the record of every other property as it is. -/
theorem get?_records_remove (hk : s.Keyed) {v : PropertyValue} {prop : Int32} (h : prop ≠ v.prop) :
    (s.remove v).records.get? prop = s.records.get? prop := by
  unfold remove removeSlot
  split
  · next r hr =>
    have hprop : r.config.prop = v.prop := hk v.prop _ (rules?_of_record hr)
    split
    · rw [get?_giveUp_withRecord, hprop, if_neg h]
    · rfl
  · rfl

/-- A write leaves the record of every other property as it is. -/
theorem get?_records_write (hk : s.Keyed) {v : PropertyValue} {updateStatus : Bool}
    {change : Option PropertyValue} (hw : s.write v updateStatus = .ok (t, change)) {prop : Int32}
    (h : prop ≠ v.prop) : t.records.get? prop = s.records.get? prop := by
  cases hr : s.records.get? v.prop with
  | none =>
    rw [write_of_undeclared (rules?_eq_none.mpr hr)] at hw
    cases hw
  | some r =>
    have hprop : r.config.prop = v.prop := hk v.prop _ (rules?_of_record hr)
    rw [write_of_record hr] at hw
    split at hw
    · cases hw
    split at hw
    · cases hw
    · cases hw
      rw [get?_giveUp_withRecord, hprop, if_neg h]

/-! ## Reading -/

/-- What is handed out is what was found. -/
theorem fst_handOut (s : Store) (found : Except Failure PropertyValue) :
    (s.handOut found).1 = found := by
  cases found with
  | error e => rfl
  | ok v => exact congrArg Except.ok (ValuePool.fst_copy s.pool v)

/-- Handing out a copy leaves the records as they are. -/
theorem records_handOut (s : Store) (found : Except Failure PropertyValue) :
    (s.handOut found).2.records = s.records := by cases found <;> rfl

/-- A store looks the same after it handed out a copy. -/
theorem same_handOut (s : Store) (found : Except Failure PropertyValue) :
    Same s (s.handOut found).2 := .of_records (s.records_handOut found)

/-- The declaration of a property, if it has one. -/
theorem config_eq (s : Store) (prop : Int32) :
    s.config prop = match s.rules? prop with
      | none => Cause.fail (.notRegistered prop)
      | some rules => .ok rules.config := by
  unfold config record
  cases hr : s.records.get? prop with
  | none =>
    rw [rules?_eq_none.mpr hr]
    rfl
  | some r =>
    rw [rules?_of_record hr]
    rfl

/-- What is found under an area and a token. -/
theorem valueAt_eq (s : Store) (prop area : Int32) (token : SlotRules → Int64) :
    s.valueAt prop area (fun r => token r.rules) =
      match s.rules? prop with
      | none => Cause.fail (.notRegistered prop)
      | some rules =>
        match s.value? prop (rules.slot area (token rules)) with
        | none => Cause.fail (.notWritten prop area)
        | some v => .ok v := by
  unfold valueAt record
  cases hr : s.records.get? prop with
  | none =>
    rw [rules?_eq_none.mpr hr]
    rfl
  | some r =>
    rw [rules?_of_record hr]
    simp only [bind, Except.bind, value?_of_record hr, r.slot_eq]
    split <;> rename_i h <;> rw [h]

/-- What is found in the slot of a request. -/
theorem find_eq (s : Store) (request : PropertyValue) :
    s.find request =
      match s.rules? request.prop with
      | none => Cause.fail (.notRegistered request.prop)
      | some rules =>
        match s.value? request.prop (rules.slotOf request) with
        | none => Cause.fail (.notWritten request.prop request.area)
        | some v => .ok v := s.valueAt_eq request.prop request.area fun r => r.token request

/-- What is found under a token. -/
theorem findToken_eq (s : Store) (prop area : Int32) (token : Int64) :
    s.findToken prop area token =
      match s.rules? prop with
      | none => Cause.fail (.notRegistered prop)
      | some rules =>
        match s.value? prop (rules.slot area token) with
        | none => Cause.fail (.notWritten prop area)
        | some v => .ok v := s.valueAt_eq prop area fun _ => token

end Store

end BenchVehicle
