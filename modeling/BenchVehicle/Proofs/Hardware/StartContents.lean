import BenchVehicle.Proofs.Hardware.Confinement
import BenchVehicle.Proofs.Store.Order

/-!
# What a bench starts with

A property may be declared several times, its areas may be repeated, and several overriding values
may go to one slot. The last one counts in each case: the last declaration of a property is in
force, and a slot holds the last overriding value that goes there, or else what the declaration gives
for its area. A new declaration forgets the values of the one before it, so nothing else is left.
-/

namespace BenchVehicle

/-- What a value says, apart from where and when. -/
def PropertyValue.content (v : PropertyValue) : Payload × PropertyStatus := (v.payload, v.status)

/-- The last declaration of a property. -/
def Declaration.last? (declarations : List Declaration) (prop : Int32) : Option Declaration :=
  (declarations.filter fun d => d.config.prop = prop).getLast?

/-- The value that a declaration gives for an area. -/
def Declaration.valueFor (d : Declaration) (area : Int32) : PropertyValue :=
  { PropertyValue.ofKey d.config.prop area with payload := d.initialFor area }

/-- What a declaration gives for an area, unless that is empty. -/
def Declaration.contentFor (d : Declaration) (area : Int32) : Option (Payload × PropertyStatus) :=
  if (d.initialFor area).isEmpty then none else some (d.initialFor area, .available)

namespace PropertyConfig

/-- That a slot is the one of an area of a property whose values are told apart by their areas. -/
def IsInstance (c : PropertyConfig) (slot : Slot) : Prop := slot.area ∈ c.areaIds ∧ slot.token = 0

instance (c : PropertyConfig) (slot : Slot) : Decidable (c.IsInstance slot) :=
  inferInstanceAs (Decidable (_ ∧ _))

/-- Whether a value goes where the value of an area of a property is. -/
def addresses (c : PropertyConfig) (area : Int32) (v : PropertyValue) : Bool :=
  v.prop = c.prop && (c.isGlobal || v.area = area)

/-- The last of some values that goes where the value of an area of a property is. -/
def last? (c : PropertyConfig) (values : List PropertyValue) (area : Int32) :
    Option PropertyValue := (values.filter (c.addresses area)).getLast?

/-- A value goes to an area of a property if it is of the property, and of the area unless there is
one only. -/
theorem addresses_iff {c : PropertyConfig} {area : Int32} {v : PropertyValue} :
    c.addresses area v = true ↔ v.prop = c.prop ∧ (c.isGlobal = true ∨ v.area = area) := by
  simp [addresses]

/-- An area is allowed if it is declared, or if the property has one only. -/
theorem allows_iff {c : PropertyConfig} {area : Int32} :
    c.allows area = true ↔ c.isGlobal = true ∨ area ∈ c.areas.map AreaConfig.area := by
  simp [allows, area?]

/-- A value that is allowed goes to the slot of an area, and a slot of an area takes the values that
address it. -/
theorem goesTo_iff {c : PropertyConfig} {area : Int32} {slot : Slot} :
    c.allows area = true ∧ slot = { area := if c.isGlobal then 0 else area, token := 0 } ↔
      c.IsInstance slot ∧ (c.isGlobal = true ∨ area = slot.area) := by
  obtain ⟨slotArea, token⟩ := slot
  cases hglobal : c.isGlobal with
  | true => simp [allows, IsInstance, areaIds, hglobal]
  | false =>
    simp only [allows_iff, IsInstance, areaIds, hglobal, Slot.mk.injEq]
    constructor
    · rintro ⟨hallowed, rfl, rfl⟩
      simpa using hallowed
    · rintro ⟨⟨hmem, rfl⟩, heq⟩
      have harea : area = slotArea := by simpa using heq
      subst harea
      simpa using hmem

end PropertyConfig

/-- What a slot holds at the start: what the last overriding value says that goes there, or else what
the last declaration of the property gives for the area. -/
def startContent (declarations : List Declaration) (overrides : List PropertyValue) (prop : Int32)
    (slot : Slot) : Option (Payload × PropertyStatus) :=
  (Declaration.last? declarations prop).bind fun d =>
    if d.config.IsInstance slot then
      ((d.config.last? overrides slot.area).map PropertyValue.content).or (d.contentFor slot.area)
    else none

/-- A declaration is the last one of its property if none follows. -/
theorem Declaration.last?_cons (d : Declaration) (rest : List Declaration) (prop : Int32) :
    last? (d :: rest) prop =
      (last? rest prop).or (if d.config.prop = prop then some d else none) := by
  by_cases h : d.config.prop = prop <;> simp [last?, h, List.getLast?_cons]

/-- A value is the last one of its area if none follows. -/
theorem PropertyConfig.last?_cons (c : PropertyConfig) (v : PropertyValue)
    (rest : List PropertyValue) (area : Int32) :
    c.last? (v :: rest) area =
      (c.last? rest area).or (if c.addresses area v then some v else none) := by
  by_cases h : c.addresses area v = true <;> simp [last?, h, List.getLast?_cons]

/-- The last declaration of a property is of that property. -/
theorem Declaration.prop_of_last {declarations : List Declaration} {prop : Int32} {d : Declaration}
    (h : last? declarations prop = some d) : d.config.prop = prop := by
  have hmem : d ∈ declarations.filter fun d => d.config.prop = prop :=
    List.mem_of_getLast? h
  simpa using (List.mem_filter.mp hmem).2

namespace Store

/-- What the value in a slot says. -/
def content? (s : Store) (prop : Int32) (slot : Slot) : Option (Payload × PropertyStatus) :=
  (s.value? prop slot).map PropertyValue.content

end Store

namespace Hardware

open Store

variable {hw hw' : Hardware} {v : PropertyValue} {d : Declaration} {n : Nat} {prop : Int32}
  {slot : Slot}

/-! ## Writes of the start -/

/-- A write at the start changes slots of its own property only. -/
theorem sameBut_writeAt (hw : Hardware) (hk : hw.store.Keyed) (v : PropertyValue) (time : Int64) :
    SameBut (slotsOf [v.prop]) hw.store (hw.writeAt v time).2.store := by
  unfold writeAt
  split
  · next hwrite =>
    obtain ⟨rules, hwritten⟩ := written_of_write hk hwrite
    exact hwritten.sameBut.mono fun prop slot hhere => List.mem_singleton.mpr hhere.1
  · exact (Same.refl _).sameBut _

/-- The write of a value changes values of its property only. -/
theorem sameBut_writeNow (hk : hw.store.Keyed) (v : PropertyValue) :
    SameBut (slotsOf [v.prop]) hw.store (hw.writeNow v).store :=
  sameBut_writeAt { hw with clock := hw.clock.read.2 } hk v hw.clock.now

/-- The same for a value that is made of an empty one from the pool. -/
theorem sameBut_filled (hk : hw.store.Keyed) {area : Int32} (hv : v.prop = prop) :
    SameBut (slotsOf [prop]) hw.store ((hw.takeBlank prop area).2.writeNow v).store := by
  have htaken : Same hw.store (hw.takeBlank prop area).2.store := .of_records rfl
  exact (htaken.sameBut _).trans (hv ▸ sameBut_writeNow (htaken.keyed hk) v)

/-! ## Stamped writes -/

/-- A bench at its start, whose clock does not go back within so many readings and stands at no time
before those of the stored values. -/
structure Starting (n : Nat) (hw : Hardware) : Prop where
  /-- The stored values lie where they belong. -/
  coherent : hw.store.Coherent
  /-- They are not from the future. -/
  past : ∀ prop slot v, hw.store.value? prop slot = some v → v.timestamp ≤ hw.clock.now
  /-- The clock does not go back. -/
  forward : hw.clock.Forward n

/-- A bench without properties starts with the readings of its clock. -/
theorem starting_new (pool : ValuePool) {clock : Clock} (h : clock.Forward n) :
    Starting n { store := { pool }, clock } where
  coherent := coherent_empty pool
  past _ _ _ hv := nomatch hv
  forward := h

/-- A bench at its start need not use a reading. -/
theorem Starting.of_succ (h : Starting (n + 1) hw) : Starting n hw :=
  ⟨h.coherent, h.past, h.forward.of_succ⟩

/-- Nor need it use several. -/
theorem Starting.of_add {k : Nat} (h : Starting (n + k) hw) : Starting n hw := by
  induction k with
  | zero => exact h
  | succ k ih => exact ih h.of_succ

/-- The pool is used. -/
theorem Starting.taken (h : Starting n hw) (prop area : Int32) :
    Starting n (hw.takeBlank prop area).2 where
  coherent := h.coherent.same (.of_records rfl)
  past := h.past
  forward := h.forward

/-- A declaration takes no reading. -/
theorem Starting.register (h : Starting n hw) (config : PropertyConfig) :
    Starting n { hw with store := hw.store.register config (tokenRule config.prop) } where
  coherent := h.coherent.register config
  past prop slot v hv := by
    rw [value?_register] at hv
    split at hv
    · cases hv
    · exact h.past prop slot v hv
  forward := h.forward

/-- That a value is one of a declared property, in an area of it. -/
def Admits (s : Store) (v : PropertyValue) : Prop :=
  ∃ rules, s.rules? v.prop = some rules ∧ rules.config.allows v.area = true

/-- What the write of a value as of now does. -/
inductive NowWritten (hw : Hardware) (v : PropertyValue) : Hardware → Prop where
  /-- It is written with the time of now. -/
  | taken {t : Store} {change : Option PropertyValue} {rules : SlotRules}
      (h : Written hw.store { v with timestamp := hw.clock.now } true t change rules) :
      NowWritten hw v { hw with store := t, clock := hw.clock.read.2 }
  /-- The store does not take it. -/
  | refused (h : ¬ Admits hw.store v) : NowWritten hw v { hw with clock := hw.clock.read.2 }

/-- As of now the store takes all values that it admits. -/
theorem Starting.nowWritten (h : Starting n hw) (v : PropertyValue) :
    NowWritten hw v (hw.writeNow v) := by
  have hk : hw.store.Keyed := h.coherent.keyed
  have hread : hw.clock.read = (hw.clock.now, hw.clock.read.2) := rfl
  unfold writeNow
  rw [hread]
  dsimp only
  unfold writeAt
  split
  · next t change hwrite =>
    obtain ⟨rules, hwritten⟩ := written_of_write hk hwrite
    exact .taken hwritten
  · next e hwrite =>
    refine .refused fun ⟨rules, hrules, hallowed⟩ => ?_
    have htakes : hw.store.Takes { v with timestamp := hw.clock.now } :=
      ⟨rules, hrules, hallowed, fun old hold => h.past v.prop _ old hold⟩
    obtain ⟨r, hr⟩ := (write_isOk_iff hk _ true).mpr htakes
    cases hwrite.symm.trans hr

/-- A stamped write takes one reading. -/
theorem Starting.writeNow (h : Starting (n + 1) hw) (v : PropertyValue) :
    Starting n (hw.writeNow v) := by
  have hnow : hw.clock.now ≤ hw.clock.read.2.now := h.forward.now_le
  have hpast (prop : Int32) (slot : Slot) (w : PropertyValue)
      (hw' : hw.store.value? prop slot = some w) : w.timestamp ≤ hw.clock.read.2.now :=
    Int64.le_trans (h.past prop slot w hw') hnow
  have hwritten := h.nowWritten v
  generalize hw.writeNow v = hw' at hwritten
  cases hwritten with
  | refused => exact ⟨h.coherent, hpast, h.forward.read⟩
  | taken hwritten =>
    refine ⟨h.coherent.written hwritten, fun prop slot w hvalue => ?_, h.forward.read⟩
    rw [hwritten.value_eq] at hvalue
    split at hvalue
    · cases hvalue
      exact hnow
    · exact hpast prop slot w hvalue

/-- A value of no declared area changes nothing. -/
theorem Starting.store_of_not_admitted (h : Starting n hw) (hv : ¬ Admits hw.store v) :
    (hw.writeNow v).store = hw.store := by
  have hwritten := h.nowWritten v
  generalize hw.writeNow v = hw' at hwritten
  cases hwritten with
  | refused => rfl
  | taken hwritten => exact absurd ⟨_, hwritten.declared, hwritten.allowed⟩ hv

/-- What the slots of a property say after the write of a value as of now. -/
theorem Starting.content_writeNow (h : Starting n hw) {config : PropertyConfig}
    (hprop : prop ≠ PropertyId.obd2FreezeFrame)
    (hrules : hw.store.rules? prop = some { config, token := tokenRule prop })
    (v : PropertyValue) (slot : Slot) :
    (hw.writeNow v).store.content? prop slot =
      if config.IsInstance slot ∧ config.addresses slot.area v = true then some v.content
      else hw.store.content? prop slot := by
  have hconfig : config.prop = prop := h.coherent.keyed prop _ hrules
  have hgoes : config.IsInstance slot ∧ config.addresses slot.area v = true ↔ v.prop = prop ∧
      config.allows v.area = true ∧
        slot = { area := if config.isGlobal then 0 else v.area, token := 0 } := by
    rw [PropertyConfig.goesTo_iff, PropertyConfig.addresses_iff, hconfig]
    tauto
  simp only [hgoes]
  have hwritten := h.nowWritten v
  generalize hw.writeNow v = hw' at hwritten
  cases hwritten with
  | refused hrefused =>
    have hother : ¬ (v.prop = prop ∧ config.allows v.area = true ∧
        slot = { area := if config.isGlobal then 0 else v.area, token := 0 }) := by
      rintro ⟨rfl, hallowed, -⟩
      exact hrefused ⟨_, hrules, hallowed⟩
    rw [if_neg hother]
  | @taken t change rules hwritten =>
    by_cases hsame : v.prop = prop
    · subst hsame
      obtain rfl := Option.some.inj (hwritten.declared.symm.trans hrules)
      have hslot : SlotRules.slotOf { config, token := tokenRule v.prop }
          { v with timestamp := hw.clock.now } =
          { area := if config.isGlobal then 0 else v.area, token := 0 } := by
        unfold SlotRules.slotOf SlotRules.slot
        rw [tokenRule_of_ne hprop]
        rfl
      have hallowed : config.allows v.area = true := hwritten.allowed
      by_cases hhere : slot = { area := if config.isGlobal then 0 else v.area, token := 0 }
      · simp only [content?, hwritten.value_eq, hslot, hallowed, true_and, if_pos hhere]
        rfl
      · simp only [content?, hwritten.value_eq, hslot, hallowed, true_and, if_neg hhere]
    · have hne : prop ≠ v.prop := Ne.symm hsame
      simp only [content?, hwritten.value_eq, hsame, hne, false_and, if_false]

/-! ## Overriding values -/

/-- Overriding values take a reading each. -/
theorem Starting.overridden {values : List PropertyValue} (h : Starting (values.length + n) hw) :
    Starting n (values.foldl Hardware.writeNow hw) := by
  induction values generalizing hw with
  | nil => exact Nat.zero_add n ▸ h
  | cons v rest ih =>
    rw [List.length_cons, Nat.add_right_comm] at h
    exact ih (Starting.writeNow h v)

/-- Overriding values leave the declarations as they are. -/
theorem rules_overridden (hk : hw.store.Keyed) (values : List PropertyValue) (prop : Int32) :
    (values.foldl writeNow hw).store.rules? prop = hw.store.rules? prop := by
  induction values generalizing hw with
  | nil => rfl
  | cons v rest ih =>
    have hfirst := sameBut_writeNow hk v
    exact (ih (hfirst.keyed hk)).trans (hfirst.rules prop)

/-- Of the overriding values that go to a slot the last one stays. -/
theorem Starting.content_overridden {values : List PropertyValue} (h : Starting values.length hw)
    {config : PropertyConfig} (hprop : prop ≠ PropertyId.obd2FreezeFrame)
    (hrules : hw.store.rules? prop = some { config, token := tokenRule prop }) (slot : Slot) :
    (values.foldl Hardware.writeNow hw).store.content? prop slot =
      if config.IsInstance slot then
        ((config.last? values slot.area).map PropertyValue.content).or (hw.store.content? prop slot)
      else hw.store.content? prop slot := by
  induction values generalizing hw with
  | nil => simp [PropertyConfig.last?]
  | cons v rest ih =>
    have hfirst := h.content_writeNow hprop hrules v slot
    have hrules' := ((sameBut_writeNow h.coherent.keyed v).rules prop).trans hrules
    have hrest := ih (Starting.writeNow h v) hrules'
    rw [List.foldl_cons, hrest, hfirst, PropertyConfig.last?_cons]
    by_cases hinstance : config.IsInstance slot
    · by_cases haddressed : config.addresses slot.area v = true <;>
        cases config.last? rest slot.area <;> simp [hinstance, haddressed]
    · simp [hinstance]

/-! ## Declarations -/

/-- An area of a property is the place of its own value. -/
theorem addressed_iff {config : PropertyConfig} {area : Int32} (harea : area ∈ config.areaIds)
    {v : PropertyValue} (hv : v.prop = config.prop ∧ v.area = area) :
    config.IsInstance slot ∧ config.addresses slot.area v = true ↔
      slot = { area, token := 0 } := by
  obtain ⟨slotArea, token⟩ := slot
  obtain ⟨hprop, rfl⟩ := hv
  cases hglobal : config.isGlobal with
  | true =>
    have hzero : v.area = 0 := by simpa [PropertyConfig.areaIds, hglobal] using harea
    simp [PropertyConfig.IsInstance, PropertyConfig.areaIds, PropertyConfig.addresses, hglobal,
      hprop, hzero]
  | false =>
    simp only [PropertyConfig.IsInstance, PropertyConfig.addresses, hglobal, hprop, Slot.mk.injEq,
      decide_true, Bool.true_and, Bool.false_or, decide_eq_true_eq]
    constructor
    · rintro ⟨⟨-, htoken⟩, hsame⟩
      exact ⟨hsame.symm, htoken⟩
    · rintro ⟨rfl, htoken⟩
      exact ⟨⟨harea, htoken⟩, rfl⟩

/-- The value of an area is written as of now, unless it is empty. -/
theorem writeInitial_eq (d : Declaration) (hw : Hardware) (area : Int32) :
    writeInitial d hw area = if (d.initialFor area).isEmpty then hw else
      (hw.takeBlank d.config.prop area).2.writeNow (d.valueFor area) := by
  have hblank : (hw.takeBlank d.config.prop area).1 = .ofKey d.config.prop area :=
    ValuePool.fst_obtain _ _ _
  unfold writeInitial Declaration.valueFor
  simp only [← hblank]

/-- What a declaration gives for an area takes one reading at most. -/
theorem Starting.writeInitial (h : Starting (n + 1) hw) (d : Declaration) (area : Int32) :
    Starting n (writeInitial d hw area) := by
  rw [writeInitial_eq]
  split
  · exact h.of_succ
  · exact Starting.writeNow (h.taken _ _) _

/-- It changes slots of its own property only. -/
theorem sameBut_writeInitial (hk : hw.store.Keyed) (d : Declaration) (area : Int32) :
    SameBut (slotsOf [d.config.prop]) hw.store (writeInitial d hw area).store := by
  rw [writeInitial_eq]
  split
  · exact (Same.refl _).sameBut _
  · exact sameBut_filled hk rfl

/-- The slot of the area holds what is given for it, if anything is, and what it held otherwise. -/
theorem Starting.content_writeInitial (h : Starting n hw) {d : Declaration} {area : Int32}
    (hprop : d.config.prop ≠ PropertyId.obd2FreezeFrame)
    (hrules : hw.store.rules? d.config.prop =
      some { config := d.config, token := tokenRule d.config.prop })
    (harea : area ∈ d.config.areaIds) (slot : Slot) :
    (Hardware.writeInitial d hw area).store.content? d.config.prop slot =
      if slot = { area, token := 0 } then
        (d.contentFor area).or (hw.store.content? d.config.prop slot)
      else hw.store.content? d.config.prop slot := by
  rw [writeInitial_eq]
  cases hempty : (d.initialFor area).isEmpty with
  | true => simp [Declaration.contentFor, hempty]
  | false =>
    have htaken : (hw.takeBlank d.config.prop area).2.store.content? d.config.prop slot =
        hw.store.content? d.config.prop slot := rfl
    have hplace : d.config.IsInstance slot ∧
        d.config.addresses slot.area (d.valueFor area) = true ↔ slot = { area, token := 0 } :=
      addressed_iff harea ⟨rfl, rfl⟩
    have hsays : (d.valueFor area).content = (d.initialFor area, .available) := rfl
    have hcontent := (h.taken d.config.prop area).content_writeNow hprop hrules (d.valueFor area) slot
    simp only [hplace, hsays, htaken] at hcontent
    simpa [Declaration.contentFor, hempty] using hcontent

section Areas

variable {areas : List Int32}

/-- What a declaration gives for some areas takes a reading each at most. -/
theorem Starting.initials (h : Starting (n + areas.length) hw) (d : Declaration) :
    Starting n (areas.foldl (Hardware.writeInitial d) hw) := by
  induction areas generalizing hw with
  | nil => exact h
  | cons area rest ih => exact ih (Starting.writeInitial h d area)

/-- It changes slots of its own property only. -/
theorem sameBut_initials (hk : hw.store.Keyed) (d : Declaration) (areas : List Int32) :
    SameBut (slotsOf [d.config.prop]) hw.store (areas.foldl (writeInitial d) hw).store := by
  induction areas generalizing hw with
  | nil => exact (Same.refl _).sameBut _
  | cons area rest ih =>
    have hfirst := sameBut_writeInitial hk d area
    exact hfirst.trans (ih (hfirst.keyed hk))

/-- The areas get their values one after the other. -/
theorem Starting.content_initials (h : Starting (n + areas.length) hw) {d : Declaration}
    (hprop : d.config.prop ≠ PropertyId.obd2FreezeFrame)
    (hrules : hw.store.rules? d.config.prop =
      some { config := d.config, token := tokenRule d.config.prop })
    (hareas : ∀ area ∈ areas, area ∈ d.config.areaIds) (slot : Slot) :
    (areas.foldl (Hardware.writeInitial d) hw).store.content? d.config.prop slot =
      if slot.area ∈ areas ∧ slot.token = 0 then
        (d.contentFor slot.area).or (hw.store.content? d.config.prop slot)
      else hw.store.content? d.config.prop slot := by
  induction areas generalizing hw with
  | nil => simp
  | cons area rest ih =>
    have hfirst := h.content_writeInitial hprop hrules (hareas area List.mem_cons_self) slot
    have hrules' := ((sameBut_writeInitial h.coherent.keyed d area).rules d.config.prop).trans hrules
    have hrest := ih (Starting.writeInitial h d area) hrules'
      fun a ha => hareas a (List.mem_cons_of_mem _ ha)
    obtain ⟨slotArea, token⟩ := slot
    rw [List.foldl_cons, hrest, hfirst]
    by_cases htoken : token = 0 <;> by_cases hhere : slotArea = area <;>
      by_cases hlater : slotArea ∈ rest <;> simp [htoken, hhere, hlater, ← Option.or_assoc]

end Areas

/-- The properties whose values are made up at the start are diagnostic. -/
theorem ne_of_not_diagnostic {other : Int32} (hdiagnostic : PropertyId.isDiagnostic prop = false)
    (hother : PropertyId.isDiagnostic other = true) : prop ≠ other := by
  rintro rfl
  rw [hdiagnostic] at hother
  cases hother

/-- A declaration takes a reading for each of its areas at most. -/
theorem Starting.declare {d : Declaration} (h : Starting (n + d.config.areaIds.length) hw) :
    Starting n (declare hw d) := by
  unfold Hardware.declare
  dsimp only
  split
  · exact (h.register d.config).of_add
  · exact (h.register d.config).initials d

/-- A declaration replaces the one before it. -/
theorem rules_declare (hk : hw.store.Keyed) (d : Declaration) (prop : Int32) :
    (declare hw d).store.rules? prop =
      if d.config.prop = prop then some { config := d.config, token := tokenRule prop }
      else hw.store.rules? prop := by
  have hdeclared : (hw.store.register d.config (tokenRule d.config.prop)).rules? prop =
      if d.config.prop = prop then some { config := d.config, token := tokenRule prop }
      else hw.store.rules? prop := by
    rw [rules?_register]
    rcases eq_or_ne d.config.prop prop with rfl | hne
    · simp
    · simp [hne, hne.symm]
  unfold declare
  dsimp only
  split
  · exact hdeclared
  · exact ((sameBut_initials (hk.register d.config _) d d.config.areaIds).rules prop).trans hdeclared

/-- It forgets the values of the one before it, and gives its own. -/
theorem Starting.content_declare {d : Declaration} (h : Starting (n + d.config.areaIds.length) hw)
    (hdiagnostic : PropertyId.isDiagnostic prop = false) (slot : Slot) :
    (Hardware.declare hw d).store.content? prop slot =
      if d.config.prop = prop then
        if d.config.IsInstance slot then d.contentFor slot.area else none
      else hw.store.content? prop slot := by
  let registered : Hardware :=
    { hw with store := hw.store.register d.config (tokenRule d.config.prop) }
  have hstart : Starting (n + d.config.areaIds.length) registered := h.register d.config
  rcases eq_or_ne d.config.prop prop with rfl | hne
  · have hprop : d.config.prop ≠ PropertyId.obd2FreezeFrame :=
      ne_of_not_diagnostic hdiagnostic (by decide)
    have hrules : registered.store.rules? d.config.prop =
        some { config := d.config, token := tokenRule d.config.prop } :=
      (rules?_register ..).trans (if_pos rfl)
    have hforgotten : registered.store.content? d.config.prop slot = none := by
      rw [content?, value?_register, if_pos rfl]
      rfl
    have hvalues := hstart.content_initials hprop hrules (fun _ harea => harea) slot
    rw [hforgotten, Option.or_none] at hvalues
    unfold Hardware.declare
    dsimp only
    rw [if_neg (by simp [hdiagnostic]), if_pos rfl]
    exact hvalues
  · have hother : ¬ slotsOf [d.config.prop] prop slot := by simpa [slotsOf] using hne.symm
    have hkept : registered.store.content? prop slot = hw.store.content? prop slot := by
      rw [content?, value?_register, if_neg hne.symm]
      rfl
    have hvalues := (sameBut_initials hstart.coherent.keyed d d.config.areaIds).value prop slot hother
    unfold Hardware.declare
    dsimp only
    rw [if_neg hne]
    split
    · exact hkept
    · exact (congrArg (Option.map PropertyValue.content) hvalues).trans hkept

/-- The number of areas of some declarations. -/
def areaCount (declarations : List Declaration) : Nat :=
  (declarations.map fun d => d.config.areaIds.length).sum

/-- A declaration adds its own areas. -/
theorem areaCount_cons (d : Declaration) (rest : List Declaration) :
    n + areaCount (d :: rest) = n + areaCount rest + d.config.areaIds.length := by
  simp only [areaCount, List.map_cons, List.sum_cons]
  omega

section Declarations

variable {declarations : List Declaration}

/-- Declarations take a reading for each of their areas at most. -/
theorem Starting.declared (h : Starting (n + areaCount declarations) hw) :
    Starting n (declarations.foldl Hardware.declare hw) := by
  induction declarations generalizing hw with
  | nil => exact h
  | cons d rest ih => exact ih (Starting.declare (areaCount_cons d rest ▸ h))

/-- The last declaration of a property is in force. -/
theorem Starting.rules_declared (h : Starting (n + areaCount declarations) hw) (prop : Int32) :
    (declarations.foldl Hardware.declare hw).store.rules? prop =
      ((Declaration.last? declarations prop).map fun d =>
        { config := d.config, token := tokenRule prop }).or (hw.store.rules? prop) := by
  induction declarations generalizing hw with
  | nil => rfl
  | cons d rest ih =>
    have hd := areaCount_cons d rest ▸ h
    rw [List.foldl_cons, ih (Starting.declare hd), rules_declare h.coherent.keyed,
      Declaration.last?_cons]
    by_cases hsame : d.config.prop = prop <;>
      cases Declaration.last? rest prop <;> simp [hsame]

/-- A property has what its last declaration gives. -/
theorem Starting.content_declared (h : Starting (n + areaCount declarations) hw)
    (hdiagnostic : PropertyId.isDiagnostic prop = false) (slot : Slot) :
    (declarations.foldl Hardware.declare hw).store.content? prop slot =
      match Declaration.last? declarations prop with
      | some d => if d.config.IsInstance slot then d.contentFor slot.area else none
      | none => hw.store.content? prop slot := by
  induction declarations generalizing hw with
  | nil => rfl
  | cons d rest ih =>
    have hd := areaCount_cons d rest ▸ h
    rw [List.foldl_cons, ih (Starting.declare hd), hd.content_declare hdiagnostic,
      Declaration.last?_cons]
    by_cases hsame : d.config.prop = prop <;>
      cases Declaration.last? rest prop <;> simp [hsame]

end Declarations

/-! ## Frames -/

/-- The live frame changes slots of its own property only. -/
theorem sameBut_writeLiveFrame (hk : hw.store.Keyed) :
    SameBut (slotsOf [PropertyId.obd2LiveFrame]) hw.store hw.writeLiveFrame.store := by
  have hblank (prop area : Int32) : (hw.takeBlank prop area).1 = .ofKey prop area :=
    ValuePool.fst_obtain _ _ _
  unfold writeLiveFrame
  split
  · exact (Same.refl _).sameBut _
  · dsimp only
    rw [hblank]
    exact sameBut_filled hk rfl

/-- Keeping frames changes slots of their property only. -/
theorem sameBut_keepFrames (hk : hw.store.Keyed) (config : PropertyConfig) (last : Option Int64)
    (faults : List String) :
    SameBut (slotsOf [PropertyId.obd2FreezeFrame]) hw.store
      (hw.keepFrames config last faults).store := by
  induction faults generalizing hw last with
  | nil => exact (Same.refl _).sameBut _
  | cons fault rest ih =>
    have hblank : (hw.takeBlank PropertyId.obd2FreezeFrame 0).1 =
        .ofKey PropertyId.obd2FreezeFrame 0 := ValuePool.fst_obtain _ _ _
    have htaken : Same hw.store (hw.takeBlank PropertyId.obd2FreezeFrame 0).2.store :=
      .of_records rfl
    have hframe {mid mid' : Hardware} {frame : PropertyValue} {time : Int64} {taken : Bool}
        (h : mid.writeAt frame time = (taken, mid'))
        (hmid : mid.store = (hw.takeBlank PropertyId.obd2FreezeFrame 0).2.store)
        (hprop : frame.prop = PropertyId.obd2FreezeFrame) :
        SameBut (slotsOf [PropertyId.obd2FreezeFrame]) hw.store mid'.store := by
      have hwritten := sameBut_writeAt mid (hmid ▸ htaken.keyed hk) frame time
      rw [h, hmid, hprop] at hwritten
      exact (htaken.sameBut _).trans hwritten
    unfold keepFrames
    dsimp only
    rw [hblank]
    split
    · next mid h =>
      have hfirst := hframe h rfl rfl
      exact hfirst.trans (ih (hfirst.keyed hk) _)
    · next mid h => exact hframe h rfl rfl

/-- So does keeping the frames of the start. -/
theorem sameBut_writeFreezeFrames (hk : hw.store.Keyed) :
    SameBut (slotsOf [PropertyId.obd2FreezeFrame]) hw.store hw.writeFreezeFrames.store := by
  unfold writeFreezeFrames
  split
  · exact (Same.refl _).sameBut _
  · exact sameBut_keepFrames hk _ _ _

/-- The frames are values of diagnostic properties. -/
theorem sameBut_frames (hk : hw.store.Keyed) :
    SameBut (fun prop _ => PropertyId.isDiagnostic prop = true) hw.store
      hw.writeLiveFrame.writeFreezeFrames.store := by
  have hlive := sameBut_writeLiveFrame hk
  have hkept := sameBut_writeFreezeFrames (hlive.keyed hk)
  have hdiagnostic (other : Int32) (hother : PropertyId.isDiagnostic other = true) (prop : Int32)
      (slot : Slot) (h : slotsOf [other] prop slot) : PropertyId.isDiagnostic prop = true := by
    have hsame : prop = other := by simpa [slotsOf] using h
    exact hsame ▸ hother
  exact (hlive.mono (hdiagnostic _ (by decide))).trans (hkept.mono (hdiagnostic _ (by decide)))

/-! ## Any bench -/

/-- No step of the start puts values out of order. -/
theorem StartStep.sorted {given : List PropertyValue} (h : StartStep given hw hw')
    (hs : hw.store.Sorted) : hw'.store.Sorted := by
  cases h with
  | declared config => exact hs.register config _
  | written hwrite => exact hs.write hwrite
  | used => exact hs

section Start

variable {declarations : List Declaration} {overrides : List PropertyValue} {clock : Clock}

/-- That the clock does not go back while values are written at the start. Each declared area and each
overriding value takes a reading at most. -/
abbrev ForwardAtStart (declarations : List Declaration) (overrides : List PropertyValue)
    (clock : Clock) : Prop := clock.Forward (overrides.length + areaCount declarations)

/-- After the declarations a bench has readings left for the overriding values. -/
theorem starting_declared (pool : ValuePool) (h : ForwardAtStart declarations overrides clock) :
    Starting overrides.length (declarations.foldl declare { store := { pool }, clock }) :=
  (starting_new pool h).declared

/-- After the declarations the last one of each property is in force. -/
theorem rules_declared (pool : ValuePool) (h : ForwardAtStart declarations overrides clock)
    (prop : Int32) :
    (declarations.foldl declare { store := { pool }, clock }).store.rules? prop =
      (Declaration.last? declarations prop).map fun d =>
        { config := d.config, token := tokenRule prop } := by
  have hempty : ({ pool } : Store).rules? prop = none := rfl
  rw [(starting_new pool h).rules_declared, hempty, Option.or_none]

/-- At the start the last declaration of each property is in force. -/
theorem rules_ofDeclarations (pool : ValuePool) (h : ForwardAtStart declarations overrides clock)
    (prop : Int32) :
    (ofDeclarations declarations overrides clock pool).store.rules? prop =
      (Declaration.last? declarations prop).map fun d =>
        { config := d.config, token := tokenRule prop } := by
  have hstart := starting_declared pool h
  have hoverridden := rules_overridden hstart.coherent.keyed overrides prop
  have hlast : Starting 0 _ := hstart.overridden
  have hframes := (sameBut_frames hlast.coherent.keyed).rules prop
  exact hframes.trans (hoverridden.trans (rules_declared pool h prop))

/-- At the start every slot but those of diagnostics holds what was last given for it. -/
theorem content_ofDeclarations (pool : ValuePool) (h : ForwardAtStart declarations overrides clock)
    (hdiagnostic : PropertyId.isDiagnostic prop = false) (slot : Slot) :
    (ofDeclarations declarations overrides clock pool).store.content? prop slot =
      startContent declarations overrides prop slot := by
  have hprop : prop ≠ PropertyId.obd2FreezeFrame := ne_of_not_diagnostic hdiagnostic (by decide)
  have hrules := rules_ofDeclarations pool h prop
  have hstart := starting_declared pool h
  have hlast : Starting 0 _ := hstart.overridden
  have hframes := (sameBut_frames hlast.coherent.keyed).value prop slot (by simp [hdiagnostic])
  have hkept : (ofDeclarations declarations overrides clock pool).store.content? prop slot =
      (overrides.foldl writeNow
        (declarations.foldl declare { store := { pool }, clock })).store.content? prop slot :=
    congrArg (Option.map PropertyValue.content) hframes
  have hdeclared := rules_declared pool h prop
  have hgiven := (starting_new pool h).content_declared hdiagnostic slot
  unfold startContent
  cases hlast : Declaration.last? declarations prop with
  | none =>
    rw [hlast] at hrules
    exact congrArg (Option.map PropertyValue.content) (value?_of_undeclared hrules slot)
  | some d =>
    rw [hlast] at hdeclared hgiven
    rw [hkept, hstart.content_overridden hprop hdeclared slot, hgiven]
    by_cases hinstance : d.config.IsInstance slot <;> simp [hinstance]

/-- What no declaration admits goes to no slot. -/
theorem startContent_of_not_admitted {before after : List PropertyValue}
    (hrefused : ∀ d, Declaration.last? declarations v.prop = some d →
      d.config.allows v.area = false) (prop : Int32) (slot : Slot) :
    startContent declarations (before ++ v :: after) prop slot =
      startContent declarations (before ++ after) prop slot := by
  unfold startContent
  cases hlast : Declaration.last? declarations prop with
  | none => rfl
  | some d =>
    by_cases hinstance : d.config.IsInstance slot
    · have hother : d.config.addresses slot.area v = false := by
        refine Bool.eq_false_iff.mpr fun haddressed => ?_
        obtain ⟨hconfig, hplace⟩ := PropertyConfig.addresses_iff.mp haddressed
        have hallowed := (PropertyConfig.goesTo_iff.mpr ⟨hinstance, hplace⟩).1
        have hprop : v.prop = prop := hconfig.trans (Declaration.prop_of_last hlast)
        rw [hrefused d (hprop ▸ hlast)] at hallowed
        cases hallowed
      simp [hinstance, PropertyConfig.last?, hother]
    · simp [hinstance]

end Start

/-- What a bench starts with. The last declaration of each property is in force, in the order of the
properties. A slot of an area holds what the last overriding value says that goes there, or else what
the declaration gives for the area, and there are no other values; the diagnostic properties apart,
which get frames. An overriding value that no declaration admits changes nothing. -/
theorem contents_at_start (declarations : List Declaration) (overrides : List PropertyValue)
    (clock : Clock) (pool : ValuePool)
    (hclock : clock.Forward (overrides.length + areaCount declarations)) :
    let store := (ofDeclarations declarations overrides clock pool).store
    store.configs.Pairwise (fun c c' => c.prop < c'.prop) ∧
    (∀ c, c ∈ store.configs ↔
      ∃ d, Declaration.last? declarations c.prop = some d ∧ d.config = c) ∧
    (∀ prop slot, PropertyId.isDiagnostic prop = false →
      store.content? prop slot = startContent declarations overrides prop slot) ∧
    ∀ before v after, overrides = before ++ v :: after →
      (∀ d, Declaration.last? declarations v.prop = some d → d.config.allows v.area = false) →
        let mid := before.foldl writeNow (declarations.foldl declare { store := { pool }, clock })
        (mid.writeNow v).store = mid.store ∧
          ∀ prop slot, PropertyId.isDiagnostic prop = false →
            (ofDeclarations declarations (before ++ after) clock pool).store.content? prop slot =
              store.content? prop slot := by
  intro store
  have hkeyed : store.Keyed := (coherent_ofDeclarations declarations overrides clock pool).keyed
  have hsorted : store.Sorted :=
    (starts_ofDeclarations declarations overrides clock pool).keeps
      (P := fun hw => hw.store.Sorted) (fun _ _ => StartStep.sorted) (sorted_empty pool)
  refine ⟨hsorted.pairwise_configs hkeyed, fun c => ?_,
    fun prop slot hdiagnostic => content_ofDeclarations pool hclock hdiagnostic slot, ?_⟩
  · rw [hsorted.mem_configs_iff hkeyed, rules_ofDeclarations pool hclock]
    simp
  · rintro before v after rfl hrefused mid
    have hlength : (before ++ v :: after).length + areaCount declarations =
        (before ++ after).length + areaCount declarations + 1 := by
      simp only [List.length_append, List.length_cons]
      omega
    have hclock' : ForwardAtStart declarations (before ++ after) clock :=
      (hlength ▸ hclock).of_succ
    have hdeclared := starting_declared pool hclock
    have hnot : ¬ Admits mid.store v := by
      rintro ⟨rules, hrules, hallowed⟩
      rw [rules_overridden hdeclared.coherent.keyed, rules_declared pool hclock] at hrules
      obtain ⟨d, hlast, rfl⟩ := Option.map_eq_some_iff.mp hrules
      rw [hrefused d hlast] at hallowed
      cases hallowed
    rw [List.length_append] at hdeclared
    have hmid : Starting _ mid := hdeclared.overridden
    refine ⟨hmid.store_of_not_admitted hnot, fun prop slot hdiagnostic => ?_⟩
    rw [content_ofDeclarations pool hclock' hdiagnostic,
      content_ofDeclarations pool hclock hdiagnostic, startContent_of_not_admitted hrefused]

/-- A property is declared twice, with an area that is repeated. One area keeps what the second
declaration gives, the other one holds the second of its overriding values, and a global property
takes the one for another area. -/
theorem contents_of_redeclared :
    let number (n : Int32) : Payload := { int32s := [n] }
    let declarations : List Declaration :=
      [{ config := { prop := 5, type := .int32, areas := [{ area := 1 }, { area := 3 }] }
         initial := number 1 },
        { config := { prop := 4, type := .int32 }, initial := number 9 },
        { config :=
            { prop := 5, type := .int32, areas := [{ area := 1 }, { area := 2 }, { area := 2 }] }
          initial := number 7, areaValues := .ofList [(2, number 8)] }]
    let override (prop area n : Int32) (status : PropertyStatus) : PropertyValue :=
      { prop, area, status, payload := number n }
    let overrides :=
      [override 5 2 20 .error, override 5 3 21 .error, override 5 2 22 .unavailable,
        override 4 77 23 .error]
    let store := (ofDeclarations declarations overrides (.ticking 2000000)).store
    (Clock.ticking 2000000).Forward (overrides.length + areaCount declarations) ∧
      store.configs.map PropertyConfig.prop = [4, 5] ∧
      store.content? 5 { area := 1, token := 0 } = some (number 7, .available) ∧
      store.content? 5 { area := 2, token := 0 } = some (number 22, .unavailable) ∧
      store.content? 5 { area := 3, token := 0 } = none ∧
      store.content? 4 { area := 0, token := 0 } = some (number 23, .error) := by
  intro number declarations override overrides store
  have hclock : (Clock.ticking 2000000).Forward (overrides.length + areaCount declarations) := by
    have hbounded : ∀ n ≤ overrides.length + areaCount declarations, ∀ m ≤ n,
        (Clock.ticking 2000000).reading m + (Clock.ticking 2000000).waited ≤
          (Clock.ticking 2000000).reading n + (Clock.ticking 2000000).waited := by decide +kernel
    exact fun m n _ hmn hn => hbounded n (Nat.zero_add (_ + _) ▸ hn) m hmn
  obtain ⟨-, -, hcontents, -⟩ :=
    contents_at_start declarations overrides (.ticking 2000000) {} hclock
  exact ⟨hclock, by decide +kernel, hcontents 5 _ rfl, hcontents 5 _ rfl, hcontents 5 _ rfl,
    hcontents 4 _ rfl⟩

end Hardware

end BenchVehicle
