import BenchVehicle.Proofs.Hardware.Effects
import BenchVehicle.Proofs.Store.History

/-!
# Mirrors of a store

A listener that is there from the start can remember the last change announced of each slot, and
forget a slot when it is cleared. What it remembers then is what the store holds, except that a
value of the same content may have been stored since without an announcement. Unannounced writes
come in chains, so the argument needs that equality of contents is transitive; it is not reflexive,
because a NaN differs from itself, so a remembered value may also be the stored one itself.
-/

namespace BenchVehicle

/-! ## Equality of contents -/

/-- Numbers that are the same as a third are the same. -/
theorem Binary.same_trans {f : BinaryFormat} {x y z : Binary f} (hxy : x.same y = true)
    (hyz : y.same z = true) : x.same z = true := by
  simp only [Binary.same, Bool.and_eq_true, decide_eq_true_eq] at hxy hyz ⊢
  exact ⟨⟨hxy.1.1, hyz.1.2⟩, hxy.2.trans hyz.2⟩

/-- So are lists of numbers. -/
theorem Payload.sameFloats_trans {xs ys zs : List Single} (hxy : sameFloats xs ys = true)
    (hyz : sameFloats ys zs = true) : sameFloats xs zs = true := by
  induction xs generalizing ys zs with
  | nil =>
    cases ys with
    | nil => exact hyz
    | cons y ys => cases hxy
  | cons x xs ih =>
    cases ys with
    | nil => cases hxy
    | cons y ys =>
      cases zs with
      | nil => cases hyz
      | cons z zs =>
        simp only [sameFloats, Bool.and_eq_true] at hxy hyz ⊢
        exact ⟨Binary.same_trans hxy.1 hyz.1, ih hxy.2 hyz.2⟩

/-- Payloads that are the same as a third are the same. -/
theorem Payload.same_trans {p q r : Payload} (hpq : p.same q = true) (hqr : q.same r = true) :
    p.same r = true := by
  simp only [Payload.same, Bool.and_eq_true, decide_eq_true_eq] at hpq hqr ⊢
  obtain ⟨⟨⟨⟨hints, hlongs⟩, hfloats⟩, hstring⟩, hbytes⟩ := hpq
  obtain ⟨⟨⟨⟨hints', hlongs'⟩, hfloats'⟩, hstring'⟩, hbytes'⟩ := hqr
  have htrans := sameFloats_trans hfloats hfloats'
  exact ⟨⟨⟨⟨hints.trans hints', hlongs.trans hlongs'⟩, htrans⟩, hstring.trans hstring'⟩,
    hbytes.trans hbytes'⟩

/-- Values with the content of a third have the same content. -/
theorem PropertyValue.sameContent_trans {u v w : PropertyValue} (huv : u.sameContent v = true)
    (hvw : v.sameContent w = true) : u.sameContent w = true := by
  simp only [PropertyValue.sameContent, Bool.and_eq_true, decide_eq_true_eq] at huv hvw ⊢
  obtain ⟨⟨⟨hprop, harea⟩, hstatus⟩, hpayload⟩ := huv
  obtain ⟨⟨⟨hprop', harea'⟩, hstatus'⟩, hpayload'⟩ := hvw
  have htrans := Payload.same_trans hpayload hpayload'
  exact ⟨⟨⟨hprop.trans hprop', harea.trans harea'⟩, hstatus.trans hstatus'⟩, htrans⟩

/-- That a remembered value stands for a stored one: they have the same content or are the same. -/
def PropertyValue.StandsFor (m v : PropertyValue) : Prop := m.sameContent v = true ∨ m = v

/-- What stands for a value stands for any value of the same content. -/
theorem PropertyValue.StandsFor.trans {m v w : PropertyValue} (h : m.StandsFor v)
    (hvw : v.sameContent w = true) : m.StandsFor w := by
  rcases h with hmv | rfl
  · exact .inl (PropertyValue.sameContent_trans hmv hvw)
  · exact .inl hvw

namespace Store

variable {s t : Store}

/-! ## Announcements -/

/-- The announced change is the value as it is stored. -/
theorem Written.value_of_change {v c : PropertyValue} {updateStatus : Bool} {rules : SlotRules}
    (h : Written s v updateStatus t (some c) rules) :
    t.value? v.prop (rules.slotOf v) = some c := by
  have hstored := h.value_eq v.prop (rules.slotOf v)
  have hchange := h.change_eq
  rw [if_pos ⟨rfl, rfl⟩] at hstored
  dsimp only at hchange
  split at hchange
  · rw [hstored, hchange]
  · cases hchange

/-- A write that is not announced finds a value there of the same content as what it stores. -/
theorem Written.sameContent_of_quiet {v : PropertyValue} {updateStatus : Bool} {rules : SlotRules}
    (h : Written s v updateStatus t none rules) :
    ∃ old, s.value? v.prop (rules.slotOf v) = some old ∧
      old.sameContent (settled (some old) v updateStatus) = true := by
  have hchange := h.change_eq
  dsimp only at hchange
  split at hchange
  · cases hchange
  · next hquiet =>
    cases hold : s.value? v.prop (rules.slotOf v) with
    | none => simp [hold, isChange] at hquiet
    | some old =>
      have hboth : updateStatus = false ∧
          old.sameContent (settled (some old) v updateStatus) = true := by
        simpa [hold, isChange] using hquiet
      exact ⟨old, rfl, hboth.2⟩

/-- A value of the content that is there is written without an announcement. -/
theorem Written.quiet_of_sameContent {v old : PropertyValue} {change : Option PropertyValue}
    {rules : SlotRules} (h : Written s v false t change rules)
    (hold : s.value? v.prop (rules.slotOf v) = some old) (hsame : old.sameContent v = true) :
    change = none := by
  have hstatus : old.status = v.status := by
    simp only [PropertyValue.sameContent, Bool.and_eq_true, decide_eq_true_eq] at hsame
    exact hsame.1.2
  have hsettled : settled (some old) v false = v := by
    simp [settled, hstatus]
  have hchange := h.change_eq
  rw [hold, hsettled] at hchange
  simpa [isChange, hsame] using hchange

/-! ## The mirror -/

namespace History

/-- The slot of a value, under the rules of its property's latest declaration. -/
def slotOf? (v : PropertyValue) (h : History) : Option Slot :=
  (h.rulesOf? v.prop).map fun rules => rules.slotOf v

/-- What a listener remembers of a slot of a property: the change that was announced last of a
write to it, if the slot was not cleared since. -/
def mirror? (prop : Int32) (slot : Slot) : History → Option PropertyValue
  | [] => none
  | (.register config _, _) :: earlier =>
    if config.prop = prop then none else mirror? prop slot earlier
  | (.removeAll p, _) :: earlier => if p = prop then none else mirror? prop slot earlier
  | (.remove v, _) :: earlier =>
    if v.prop = prop ∧ slotOf? v earlier = some slot then none else mirror? prop slot earlier
  | (.write v _, { change := some c, .. }) :: earlier =>
    if v.prop = prop ∧ slotOf? v earlier = some slot then some c else mirror? prop slot earlier
  | _ :: earlier => mirror? prop slot earlier

end History

open History

/-- A history after which a listener remembers exactly the slots that a store has, each by a value
that stands for the stored one. -/
def Mirrored (h : History) (s : Store) : Prop :=
  ∀ prop slot, Option.Rel PropertyValue.StandsFor (h.mirror? prop slot) (s.value? prop slot)

/-- Nothing is stored and nothing was told at first. -/
theorem mirrored_nil (pool : ValuePool) : Mirrored [] { pool } := fun _ _ => .none

/-- An operation that announces nothing and after which the store looks the same. -/
theorem Mirrored.same {h : History} (hm : Mirrored h s) (hs : Same s t) {e : Operation × Report}
    (hquiet : ∀ prop slot, mirror? prop slot (e :: h) = h.mirror? prop slot) :
    Mirrored (e :: h) t := fun prop slot => by
  rw [hquiet, hs.value]
  exact hm prop slot

/-- A declaration forgets the values of its property on both sides. -/
theorem Mirrored.register {h : History} (hm : Mirrored h s) (config : PropertyConfig)
    (token : TokenRule) (report : Report) :
    Mirrored ((.register config token, report) :: h) (s.register config token) := by
  intro prop slot
  rw [value?_register, mirror?]
  by_cases hp : config.prop = prop
  · rw [if_pos hp, if_pos hp.symm]
    exact .none
  · rw [if_neg hp, if_neg (Ne.symm hp)]
    exact hm prop slot

/-- The removal of all values of a property empties its slots on both sides. -/
theorem Mirrored.removeAll {h : History} (hk : s.Keyed) (hm : Mirrored h s) (p : Int32)
    (report : Report) : Mirrored ((.removeAll p, report) :: h) (s.removeAll p) := by
  intro prop slot
  rw [value?_removeAll hk, mirror?]
  by_cases hp : p = prop
  · rw [if_pos hp, if_pos hp.symm]
    exact .none
  · rw [if_neg hp, if_neg (Ne.symm hp)]
    exact hm prop slot

/-- The slot of a value is the one that the rules of the store give it. -/
theorem Records.slotOf?_eq_some {h : History} (hr : Records h s) {v : PropertyValue} {slot : Slot} :
    h.slotOf? v = some slot ↔ ∃ rules, s.rules? v.prop = some rules ∧ rules.slotOf v = slot := by
  rw [hr.rules, slotOf?, Option.map_eq_some_iff]

/-- A removal empties the slot of the value on both sides. -/
theorem Mirrored.remove {h : History} (hr : Records h s) (hm : Mirrored h s) (v : PropertyValue)
    (report : Report) : Mirrored ((.remove v, report) :: h) (s.remove v) := by
  intro prop slot
  have hiff : (prop = v.prop ∧ (s.rules? v.prop).any (fun r => slot = r.slotOf v) = true) ↔
      v.prop = prop ∧ h.slotOf? v = some slot := by
    rw [hr.slotOf?_eq_some, Option.any_eq_true]
    simp only [decide_eq_true_eq, @eq_comm _ prop, @eq_comm _ slot]
  rw [value?_remove hr.keyed, mirror?]
  by_cases hhere : v.prop = prop ∧ h.slotOf? v = some slot
  · rw [if_pos hhere, if_pos (hiff.mpr hhere)]
    exact .none
  · rw [if_neg hhere, if_neg (mt hiff.mp hhere)]
    exact hm prop slot

/-- An announced write is remembered as it is stored; an unannounced one leaves a value that what
was remembered still stands for. -/
theorem Mirrored.write {h : History} (hr : Records h s) (hm : Mirrored h s) {v : PropertyValue}
    {updateStatus : Bool} {change : Option PropertyValue}
    (hw : s.write v updateStatus = .ok (t, change)) (answer : Except Failure Answer) :
    Mirrored ((.write v updateStatus, { answer, change }) :: h) t := by
  obtain ⟨rules, hwritten⟩ := written_of_write hr.keyed hw
  intro prop slot
  by_cases hhere : prop = v.prop ∧ slot = rules.slotOf v
  · obtain ⟨rfl, rfl⟩ := hhere
    have hslot : h.slotOf? v = some (rules.slotOf v) :=
      hr.slotOf?_eq_some.mpr ⟨rules, hwritten.declared, rfl⟩
    cases change with
    | some c =>
      have hmirror : mirror? v.prop (rules.slotOf v)
          ((.write v updateStatus, { answer, change := some c }) :: h) = some c :=
        if_pos ⟨rfl, hslot⟩
      rw [hmirror, hwritten.value_of_change]
      exact .some (.inr rfl)
    | none =>
      have hmirror : mirror? v.prop (rules.slotOf v)
          ((.write v updateStatus, { answer, change := none }) :: h) =
            h.mirror? v.prop (rules.slotOf v) := rfl
      obtain ⟨old, hold, hsame⟩ := hwritten.sameContent_of_quiet
      have hbefore := hm v.prop (rules.slotOf v)
      rw [hmirror, hwritten.value_eq, if_pos ⟨rfl, rfl⟩]
      rw [hold] at hbefore ⊢
      generalize h.mirror? v.prop (rules.slotOf v) = remembered at hbefore ⊢
      cases hbefore with
      | some hstands => exact .some (hstands.trans hsame)
  · have hother : ¬ (v.prop = prop ∧ h.slotOf? v = some slot) := by
      rintro ⟨rfl, hslot⟩
      obtain ⟨rules', hrules', rfl⟩ := hr.slotOf?_eq_some.mp hslot
      have heq : rules' = rules := Option.some.inj (hrules'.symm.trans hwritten.declared)
      exact hhere ⟨rfl, by rw [heq]⟩
    have hmirror : mirror? prop slot ((.write v updateStatus, { answer, change }) :: h) =
        h.mirror? prop slot := by
      cases change with
      | none => rfl
      | some c => exact if_neg hother
    rw [hmirror, hwritten.value_eq, if_neg hhere]
    exact hm prop slot

/-- Every operation leaves a mirror of the store. -/
theorem Mirrored.perform {h : History} (hr : Records h s) (hm : Mirrored h s) (o : Operation) :
    Mirrored ((o, (s.perform o).1) :: h) (s.perform o).2 := by
  cases o with
  | register config token => exact hm.register config token _
  | remove v => exact hm.remove hr v _
  | removeAll prop => exact hm.removeAll hr.keyed prop _
  | write v updateStatus =>
    cases hw : s.write v updateStatus with
    | error e =>
      simp only [Store.perform, hw]
      exact hm.same (.of_records rfl) fun _ _ => rfl
    | ok r =>
      simp only [Store.perform, hw]
      exact hm.write hr hw _
  | read request => exact hm.same (same_handOut s _) fun _ _ => rfl
  | readToken prop area token => exact hm.same (same_handOut s _) fun _ _ => rfl
  | valuesOf prop => exact hm.same (.of_records rfl) fun _ _ => rfl
  | allValues => exact hm.same (.of_records rfl) fun _ _ => rfl
  | config prop => exact hm.same (.of_records rfl) fun _ _ => rfl
  | configs => exact hm.same (.of_records rfl) fun _ _ => rfl

/-- A run of operations leaves a mirror of the store. -/
theorem Mirrored.run {h : History} (hr : Records h s) (hm : Mirrored h s)
    (operations : List Operation) :
    Mirrored ((operations.zip (s.run operations).1).reverse ++ h) (s.run operations).2 := by
  induction operations generalizing s h with
  | nil => exact hm
  | cons o rest ih =>
    have hrest := ih (hr.perform o) (hm.perform hr o)
    simp only [Store.run, List.zip_cons_cons, List.reverse_cons, List.append_assoc]
    exact hrest

/-- Every history leaves what was told a mirror of what is stored. -/
theorem mirrored_history (pool : ValuePool) (operations : List Operation) :
    Mirrored (history pool operations) (run { pool } operations).2 := by
  have h := (mirrored_nil pool).run (records_nil pool) operations
  rwa [List.append_nil] at h

/-! ## What is announced -/

/-- Only writes are announced, each as the value that its slot holds then. -/
theorem value_of_announced (hk : s.Keyed) {o : Operation} {c : PropertyValue}
    (hc : (s.perform o).1.change = some c) :
    ∃ v updateStatus rules, o = .write v updateStatus ∧ s.rules? v.prop = some rules ∧
      (s.perform o).2.value? v.prop (rules.slotOf v) = some c := by
  cases o with
  | write v updateStatus =>
    cases hw : s.write v updateStatus with
    | error e =>
      simp only [perform, hw] at hc
      cases hc
    | ok r =>
      obtain ⟨t, change⟩ := r
      simp only [perform, hw] at hc ⊢
      subst hc
      obtain ⟨rules, hwritten⟩ := written_of_write hk hw
      exact ⟨v, updateStatus, rules, rfl, hwritten.declared, hwritten.value_of_change⟩
  | _ => cases hc

/-- A write of the content that is there, which leaves the status alone, announces nothing. -/
theorem quiet_of_sameContent (hk : s.Keyed) {v old : PropertyValue} {rules : SlotRules}
    (hrules : s.rules? v.prop = some rules) (hold : s.value? v.prop (rules.slotOf v) = some old)
    (hsame : old.sameContent v = true) : (s.perform (.write v false)).1.change = none := by
  cases hw : s.write v false with
  | error e => simp only [perform, hw]
  | ok r =>
    obtain ⟨t, change⟩ := r
    obtain ⟨rules', hwritten⟩ := written_of_write hk hw
    have heq : rules' = rules := Option.some.inj (hwritten.declared.symm.trans hrules)
    subst heq
    simp only [perform, hw]
    exact hwritten.quiet_of_sameContent hold hsame

/-- The listener of a bench is told of what a write announces, and of nothing else. -/
theorem events_write (hw : Hardware) (v : PropertyValue) (updateStatus : Bool) :
    ((Hardware.write v updateStatus).final hw).events =
      hw.events ++ hw.changeEvents (hw.store.perform (.write v updateStatus)).1.change := by
  cases h : hw.store.write v updateStatus with
  | error e =>
    simp only [perform, h, Hardware.final_write_of_error h, Hardware.changeEvents_none,
      List.append_nil]
  | ok r => simp only [perform, h, Hardware.final_write_of_ok h]

/-- No change is lost: after any operations, what a listener remembers are exactly the slots of the
store, each by a value of the stored content or by the stored value itself. Whatever comes next,
an announced change is the stored value at that moment, a listener is told of one change at most,
and not of a write of the content that is there. -/
theorem mirror_of_history (pool : ValuePool) (operations : List Operation) :
    let h := history pool operations
    let s := (run { pool } operations).2
    (∀ prop slot, Option.Rel PropertyValue.StandsFor (h.mirror? prop slot) (s.value? prop slot)) ∧
    (∀ o c, (s.perform o).1.change = some c →
      ∃ v updateStatus rules, o = .write v updateStatus ∧ s.rules? v.prop = some rules ∧
        (s.perform o).2.value? v.prop (rules.slotOf v) = some c) ∧
    (∀ v updateStatus (hw : Hardware) listener, hw.store = s → hw.changeListener = some listener →
      ∃ told : List PropertyValue, told.length ≤ 1 ∧
        told = (s.perform (.write v updateStatus)).1.change.toList ∧
        ((Hardware.write v updateStatus).final hw).events =
          hw.events ++ told.map (Event.change listener.name)) ∧
    ∀ v rules old, s.rules? v.prop = some rules → s.value? v.prop (rules.slotOf v) = some old →
      old.sameContent v = true → (s.perform (.write v false)).1.change = none := by
  intro h s
  have hr : Records h s := records_history pool operations
  refine ⟨mirrored_history pool operations, fun o c => value_of_announced hr.keyed, ?_,
    fun v rules old => quiet_of_sameContent hr.keyed⟩
  intro v updateStatus hw listener hstore hlistener
  have hevents := events_write hw v updateStatus
  rw [hstore] at hevents
  refine ⟨_, ?_, rfl, ?_⟩
  · cases (s.perform (.write v updateStatus)).1.change <;> simp
  · rw [hevents]
    cases (s.perform (.write v updateStatus)).1.change <;> simp [Hardware.changeEvents, hlistener]

end Store

end BenchVehicle
