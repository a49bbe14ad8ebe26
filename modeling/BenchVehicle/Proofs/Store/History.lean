import BenchVehicle.Proofs.Store.Slots

/-!
# Histories of a store

What a store answers is determined by the operations performed on it and by which of its writes
were taken. A read finds the last write to its slot since the slot was last cleared, with the
status of the last such write that set one. Histories are listed from the latest operation back,
so a slot's past is what comes before the first operation that clears it.
-/

namespace BenchVehicle.Store

/-- Operations and what was reported of them, the latest first. -/
abbrev History := List (Operation × Report)

/-- The history of a new store on which operations are performed. -/
def history (pool : ValuePool) (operations : List Operation) : History :=
  (operations.zip (run { pool } operations).1).reverse

namespace History

/-- The rules of a property: those of its latest declaration. -/
def rulesOf? (prop : Int32) : History → Option SlotRules
  | [] => none
  | (.register config token, _) :: earlier =>
    if config.prop = prop then some { config, token } else rulesOf? prop earlier
  | _ :: earlier => rulesOf? prop earlier

/-- Whether an operation empties a slot of a property. -/
def clears (rules : SlotRules) (prop : Int32) (slot : Slot) : Operation → Bool
  | .register config _ => config.prop = prop
  | .removeAll p => p = prop
  | .remove v => v.prop = prop ∧ rules.slotOf v = slot
  | _ => false

/-- The write to a slot of a property that was performed and taken, and whether it set the status;
nothing for any other operation. -/
def writeTo? (rules : SlotRules) (prop : Int32) (slot : Slot) :
    Operation × Report → Option (PropertyValue × Bool)
  | (.write v updateStatus, { answer := .ok _, .. }) =>
    if v.prop = prop ∧ rules.slotOf v = slot then some (v, updateStatus) else none
  | _ => none

/-- The writes to a slot that were taken since the slot was last emptied, the latest first. -/
def writes (rules : SlotRules) (prop : Int32) (slot : Slot) (h : History) :
    List (PropertyValue × Bool) :=
  (h.takeWhile fun e => !clears rules prop slot e.1).filterMap (writeTo? rules prop slot)

/-- The status of the latest of some writes that set it. -/
def status (ws : List (PropertyValue × Bool)) : PropertyStatus :=
  match ws.find? Prod.snd with
  | some w => w.1.status
  | none => .available

/-- What is left of some writes to a slot: the latest value, with the status that was set last. -/
def latest? : List (PropertyValue × Bool) → Option PropertyValue
  | [] => none
  | (v, updateStatus) :: earlier => some { v with status := status ((v, updateStatus) :: earlier) }

/-- One more write leaves its value, with the status as it is settled over what was left before. -/
theorem latest?_cons (v : PropertyValue) (updateStatus : Bool) (ws : List (PropertyValue × Bool)) :
    latest? ((v, updateStatus) :: ws) = some (settled (latest? ws) v updateStatus) := by
  cases updateStatus with
  | true => rfl
  | false =>
    have hstatus : status ((v, false) :: ws) = status ws := rfl
    rw [latest?, hstatus]
    cases ws with
    | nil => rfl
    | cons w rest => rfl

/-! ## One more operation -/

/-- What clears a slot leaves no write to it that counts. -/
theorem writes_of_clears {rules : SlotRules} {prop : Int32} {slot : Slot}
    {e : Operation × Report} (he : clears rules prop slot e.1 = true) (h : History) :
    writes rules prop slot (e :: h) = [] := by simp [writes, he]

/-- What does not clear a slot adds a write to it at most. -/
theorem writes_of_keeps {rules : SlotRules} {prop : Int32} {slot : Slot}
    {e : Operation × Report} (he : clears rules prop slot e.1 = false) (h : History) :
    writes rules prop slot (e :: h) =
      (writeTo? rules prop slot e).toList ++ writes rules prop slot h := by
  unfold writes
  rw [List.takeWhile_cons_of_pos (by rw [he]; rfl), List.filterMap_cons]
  cases writeTo? rules prop slot e <;> rfl

/-- An operation on another slot, or one that writes nothing, adds nothing to the past of a slot. -/
theorem writes_of_other {rules : SlotRules} {prop : Int32} {slot : Slot}
    {e : Operation × Report} (he : clears rules prop slot e.1 = false)
    (hw : writeTo? rules prop slot e = none) (h : History) :
    writes rules prop slot (e :: h) = writes rules prop slot h := by
  rw [writes_of_keeps he, hw, Option.toList_none, List.nil_append]

end History

open History

/-! ## A store and its history -/

/-- A store that looks as its history says. -/
structure Records (h : History) (s : Store) : Prop where
  /-- Each property is found under its own id. -/
  keyed : s.Keyed
  /-- The rules of a property are those of its latest declaration. -/
  rules : ∀ prop, s.rules? prop = h.rulesOf? prop
  /-- A slot holds what is left of the writes to it. -/
  value : ∀ prop rules slot, h.rulesOf? prop = some rules →
    s.value? prop slot = latest? (h.writes rules prop slot)

/-- An empty store has no history. -/
theorem records_nil (pool : ValuePool) : Records [] { pool } where
  keyed := keyed_empty pool
  rules _ := rfl
  value _ _ _ h := nomatch h

/-- A history tells of every store that looks the same. -/
theorem Records.of_same {h : History} {s t : Store} (hr : Records h s) (hs : Same s t) :
    Records h t where
  keyed := hs.keyed hr.keyed
  rules prop := (hs.rules prop).trans (hr.rules prop)
  value prop rules slot hrules := (hs.value prop slot).trans (hr.value prop rules slot hrules)

/-- An operation after which the store looks the same, and which neither declares, clears nor
writes. -/
theorem Records.same {h : History} {s t : Store} (hr : Records h s) (hs : Same s t)
    {e : Operation × Report} (hdeclares : ∀ prop, rulesOf? prop (e :: h) = h.rulesOf? prop)
    (hclears : ∀ rules prop slot, clears rules prop slot e.1 = false)
    (hwrites : ∀ rules prop slot, writeTo? rules prop slot e = none) : Records (e :: h) t where
  keyed := hs.keyed hr.keyed
  rules prop := by rw [hs.rules, hr.rules, hdeclares]
  value prop rules slot hrules := by
    rw [hs.value, writes_of_other (hclears rules prop slot) (hwrites rules prop slot)]
    exact hr.value prop rules slot (hdeclares prop ▸ hrules)

/-- A declaration goes into the history of the store. -/
theorem Records.register {h : History} {s : Store} (hr : Records h s) (config : PropertyConfig)
    (token : TokenRule) (report : Report) :
    Records ((.register config token, report) :: h) (s.register config token) where
  keyed := hr.keyed.register config token
  rules prop := by
    rw [rules?_register, hr.rules, rulesOf?]
    simp only [eq_comm]
  value prop rules slot hrules := by
    rw [value?_register]
    split
    · next hp =>
      have hclears : clears rules prop slot (.register config token) = true :=
        decide_eq_true hp.symm
      rw [writes_of_clears hclears]
      rfl
    · next hp =>
      have hkeeps : clears rules prop slot (.register config token) = false :=
        decide_eq_false (Ne.symm hp)
      rw [writes_of_other hkeeps rfl]
      rw [rulesOf?, if_neg (Ne.symm hp)] at hrules
      exact hr.value prop rules slot hrules

/-- A removal goes into the history of the store. -/
theorem Records.remove {h : History} {s : Store} (hr : Records h s) (v : PropertyValue)
    (report : Report) : Records ((.remove v, report) :: h) (s.remove v) where
  keyed := hr.keyed.remove v
  rules prop := (rules?_remove hr.keyed v prop).trans (hr.rules prop)
  value prop rules slot hrules := by
    have hrules' : h.rulesOf? prop = some rules := hrules
    rw [value?_remove hr.keyed]
    by_cases hcleared : v.prop = prop ∧ rules.slotOf v = slot
    · have hclears : clears rules prop slot (.remove v) = true := decide_eq_true hcleared
      obtain ⟨rfl, rfl⟩ := hcleared
      rw [writes_of_clears hclears, hr.rules, hrules']
      simp [latest?]
    · have hkeeps : clears rules prop slot (.remove v) = false := decide_eq_false hcleared
      rw [writes_of_other hkeeps rfl, ← hr.value prop rules slot hrules']
      refine if_neg ?_
      rintro ⟨rfl, hslot⟩
      rw [hr.rules, hrules'] at hslot
      exact hcleared ⟨rfl, (of_decide_eq_true hslot).symm⟩

/-- The removal of all values of a property goes into the history of the store. -/
theorem Records.removeAll {h : History} {s : Store} (hr : Records h s) (p : Int32)
    (report : Report) : Records ((.removeAll p, report) :: h) (s.removeAll p) where
  keyed := hr.keyed.removeAll p
  rules prop := (rules?_removeAll hr.keyed p prop).trans (hr.rules prop)
  value prop rules slot hrules := by
    rw [value?_removeAll hr.keyed]
    split
    · next hp =>
      have hclears : clears rules prop slot (.removeAll p) = true := decide_eq_true hp.symm
      rw [writes_of_clears hclears]
      rfl
    · next hp =>
      have hkeeps : clears rules prop slot (.removeAll p) = false := decide_eq_false (Ne.symm hp)
      rw [writes_of_other hkeeps rfl]
      exact hr.value prop rules slot hrules

/-- A write that is taken goes into the history of the store. -/
theorem Records.write {h : History} {s t : Store} (hr : Records h s) {v : PropertyValue}
    {updateStatus : Bool} {change : Option PropertyValue}
    (hw : s.write v updateStatus = .ok (t, change)) (report : Report)
    (hreport : report.answer = .ok .done) :
    Records ((.write v updateStatus, report) :: h) t := by
  obtain ⟨rules, hwritten⟩ := written_of_write hr.keyed hw
  have hdeclared : h.rulesOf? v.prop = some rules := hr.rules v.prop ▸ hwritten.declared
  constructor
  · exact hwritten.keyed hr.keyed
  · exact fun prop => (hwritten.rules_eq prop).trans (hr.rules prop)
  · intro prop rules' slot hrules
    have hrules' : h.rulesOf? prop = some rules' := hrules
    have hkeeps : clears rules' prop slot (.write v updateStatus) = false := rfl
    have hto : writeTo? rules' prop slot (.write v updateStatus, report) =
        if v.prop = prop ∧ rules'.slotOf v = slot then some (v, updateStatus) else none := by
      obtain ⟨answer, change⟩ := report
      cases hreport
      rfl
    rw [hwritten.value_eq, writes_of_keeps hkeeps, hto]
    by_cases hhere : v.prop = prop ∧ rules'.slotOf v = slot
    · obtain ⟨rfl, rfl⟩ := hhere
      obtain rfl := Option.some.inj (hdeclared.symm.trans hrules')
      rw [if_pos ⟨rfl, rfl⟩, if_pos ⟨rfl, rfl⟩, Option.toList_some, List.singleton_append,
        latest?_cons, hr.value v.prop rules _ hrules']
    · rw [if_neg hhere, Option.toList_none, List.nil_append, ← hr.value prop rules' slot hrules']
      refine if_neg ?_
      rintro ⟨rfl, rfl⟩
      obtain rfl := Option.some.inj (hdeclared.symm.trans hrules')
      exact hhere ⟨rfl, rfl⟩

/-- Every operation is recorded. -/
theorem Records.perform {h : History} {s : Store} (hr : Records h s) (o : Operation) :
    Records ((o, (s.perform o).1) :: h) (s.perform o).2 := by
  cases o with
  | register config token => exact hr.register config token _
  | remove v => exact hr.remove v _
  | removeAll prop => exact hr.removeAll prop _
  | write v updateStatus =>
    cases hw : s.write v updateStatus with
    | error e =>
      simp only [Store.perform, hw]
      exact hr.same (.of_records rfl) (fun _ => rfl) (fun _ _ _ => rfl) fun _ _ _ => rfl
    | ok r =>
      simp only [Store.perform, hw]
      exact hr.write hw _ rfl
  | read request =>
    exact hr.same (same_handOut s _) (fun _ => rfl) (fun _ _ _ => rfl) fun _ _ _ => rfl
  | readToken prop area token =>
    exact hr.same (same_handOut s _) (fun _ => rfl) (fun _ _ _ => rfl) fun _ _ _ => rfl
  | valuesOf prop =>
    exact hr.same (.of_records rfl) (fun _ => rfl) (fun _ _ _ => rfl) fun _ _ _ => rfl
  | allValues =>
    exact hr.same (.of_records rfl) (fun _ => rfl) (fun _ _ _ => rfl) fun _ _ _ => rfl
  | config prop =>
    exact hr.same (.of_records rfl) (fun _ => rfl) (fun _ _ _ => rfl) fun _ _ _ => rfl
  | configs =>
    exact hr.same (.of_records rfl) (fun _ => rfl) (fun _ _ _ => rfl) fun _ _ _ => rfl

/-- A run of operations is recorded on top of what was recorded before. -/
theorem Records.run {h : History} {s : Store} (hr : Records h s) (operations : List Operation) :
    Records ((operations.zip (s.run operations).1).reverse ++ h) (s.run operations).2 := by
  induction operations generalizing s h with
  | nil => exact hr
  | cons o rest ih =>
    have hrest := ih (hr.perform o)
    simp only [Store.run, List.zip_cons_cons, List.reverse_cons, List.append_assoc]
    exact hrest

/-- The history of operations tells what the store holds. -/
theorem records_history (pool : ValuePool) (operations : List Operation) :
    Records (history pool operations) (run { pool } operations).2 := by
  have h := (records_nil pool).run operations
  rwa [List.append_nil] at h

/-! ## Answers -/

/-- That what a read found is what a history tells of one slot of a property. -/
structure Recalled (h : History) (prop : Int32) (slot : SlotRules → Slot)
    (found : Except Failure PropertyValue) : Prop where
  /-- The request is at fault exactly if the property is not declared. -/
  undeclared : FailsWith .invalidArg found ↔ h.rulesOf? prop = none
  /-- There is no value exactly if the slot was not written since it was last emptied. -/
  unwritten : FailsWith .notAvailable found ↔
    ∃ rules, h.rulesOf? prop = some rules ∧ h.writes rules prop (slot rules) = []
  /-- Otherwise the value is the one written last, with the status that was set last. -/
  written : ∀ rules v updateStatus earlier, h.rulesOf? prop = some rules →
    h.writes rules prop (slot rules) = (v, updateStatus) :: earlier →
    found = .ok { v with status := status ((v, updateStatus) :: earlier) }

/-- A look-up in a store finds what the history of the store tells. -/
theorem Records.recalled {h : History} {s : Store} (hr : Records h s) {prop : Int32} (area : Int32)
    (slot : SlotRules → Slot) :
    Recalled h prop slot
      (match s.rules? prop with
      | none => Cause.fail (.notRegistered prop)
      | some rules =>
        match s.value? prop (slot rules) with
        | none => Cause.fail (.notWritten prop area)
        | some v => .ok v) := by
  rw [hr.rules]
  cases hrules : h.rulesOf? prop with
  | none =>
    constructor
    · exact (failsWith_fail _).trans (iff_of_true rfl hrules)
    · simp [failsWith_fail, Cause.code, hrules]
    · simp [hrules]
  | some rules =>
    have hvalue := hr.value prop rules (slot rules) hrules
    cases hws : h.writes rules prop (slot rules) with
    | nil =>
      rw [hws] at hvalue
      simp only [hvalue, latest?]
      constructor
      · simp [failsWith_fail, Cause.code, hrules]
      · exact (failsWith_fail _).trans (iff_of_true rfl ⟨rules, hrules, hws⟩)
      · intro rules' v updateStatus earlier hrules' hws'
        obtain rfl := Option.some.inj (hrules.symm.trans hrules')
        rw [hws] at hws'
        cases hws'
    | cons w earlier =>
      rw [hws] at hvalue
      simp only [hvalue, latest?]
      constructor
      · simp [not_failsWith_ok, hrules]
      · simp [not_failsWith_ok, hrules, hws]
      · intro rules' v updateStatus earlier' hrules' hws'
        obtain rfl := Option.some.inj (hrules.symm.trans hrules')
        rw [hws] at hws'
        cases hws'
        rfl

/-- A store takes a value exactly if the last write to its slot is not newer. -/
theorem Records.takes_iff {h : History} {s : Store} (hr : Records h s) (v : PropertyValue) :
    s.Takes v ↔ ∃ rules, h.rulesOf? v.prop = some rules ∧ rules.config.allows v.area = true ∧
      ∀ last ∈ (h.writes rules v.prop (rules.slotOf v)).head?, last.1.timestamp ≤ v.timestamp := by
  unfold Takes
  refine exists_congr fun rules => ?_
  rw [hr.rules]
  refine and_congr_right fun hrules => and_congr_right fun _ => ?_
  rw [hr.value v.prop rules _ hrules]
  cases h.writes rules v.prop (rules.slotOf v) with
  | nil => simp [latest?]
  | cons w earlier => simp [latest?]

/-- What a store answers is what its history tells: a read recalls the last write to its slot, and
a write is taken unless the last one to its slot is newer. -/
theorem answers_of_history (pool : ValuePool) (operations : List Operation) :
    let h := history pool operations
    let s := (run { pool } operations).2
    (∀ request, Recalled h request.prop (fun rules => rules.slotOf request) (s.read request).1) ∧
    (∀ prop area token,
      Recalled h prop (fun rules => rules.slot area token) (s.readToken prop area token).1) ∧
    ∀ v updateStatus, (∃ r, s.write v updateStatus = .ok r) ↔
      ∃ rules, h.rulesOf? v.prop = some rules ∧ rules.config.allows v.area = true ∧
        ∀ last ∈ (h.writes rules v.prop (rules.slotOf v)).head?, last.1.timestamp ≤ v.timestamp := by
  intro h s
  have hr : Records h s := records_history pool operations
  refine ⟨fun request => ?_, fun prop area token => ?_, fun v updateStatus => ?_⟩
  · rw [read, fst_handOut, find_eq]
    exact hr.recalled request.area fun rules => rules.slotOf request
  · rw [readToken, fst_handOut, findToken_eq]
    exact hr.recalled area fun rules => rules.slot area token
  · rw [write_isOk_iff hr.keyed, hr.takes_iff]

end BenchVehicle.Store
