import BenchVehicle.Proofs.Hardware.Coherence
import BenchVehicle.Proofs.Store.Mirror
import Mathlib.Data.List.Infix

/-!
# Announcements of concurrent writers

A write commits a value to the store and announces the change afterwards, when the store is free for
others again. Here writers take turns of one of the two each. A change that was committed is in
flight until it is announced, and a writer has one in flight at most. Each change is announced once;
those in one slot in the order of their commits, unless two were in flight at once.
-/

namespace BenchVehicle

/-! ## Slots over a write -/

namespace Store

variable {s t : Store} {v : PropertyValue} {updateStatus : Bool} {change : Option PropertyValue}
  {rules : SlotRules}

/-- The slot of a value, if its property is declared. -/
def slotOf? (s : Store) (v : PropertyValue) : Option Slot :=
  (s.rules? v.prop).map fun rules => rules.slotOf v

/-- A value that is written has the slot that its rules say. -/
theorem Written.slotOf?_eq (h : Written s v updateStatus t change rules) :
    s.slotOf? v = some (rules.slotOf v) := by rw [slotOf?, h.declared, Option.map_some]

/-- A write leaves a value in each slot that held one, and none that is older. -/
theorem Written.newer (h : Written s v updateStatus t change rules) {prop : Int32} {slot : Slot}
    {old : PropertyValue} (hold : s.value? prop slot = some old) :
    ∃ new, t.value? prop slot = some new ∧ old.timestamp ≤ new.timestamp := by
  rw [h.value_eq]
  by_cases hhere : prop = v.prop ∧ slot = rules.slotOf v
  · obtain ⟨rfl, rfl⟩ := hhere
    obtain ⟨status, hsettled⟩ := settled_eq (s.value? v.prop (rules.slotOf v)) v updateStatus
    refine ⟨_, if_pos ⟨rfl, rfl⟩, ?_⟩
    rw [hsettled]
    exact h.fresh old hold
  · exact ⟨old, (if_neg hhere).trans hold, Int64.le_refl _⟩

/-- What stands for a stored value still does after a write that is not announced. -/
theorem Written.standsFor (h : Written s v updateStatus t none rules) {prop : Int32} {slot : Slot}
    {m old : PropertyValue} (hold : s.value? prop slot = some old) (hm : m.StandsFor old) :
    ∃ new, t.value? prop slot = some new ∧ m.StandsFor new := by
  rw [h.value_eq]
  by_cases hhere : prop = v.prop ∧ slot = rules.slotOf v
  · obtain ⟨rfl, rfl⟩ := hhere
    obtain ⟨old', hold', hsame⟩ := h.sameContent_of_quiet
    obtain rfl := Option.some.inj (hold.symm.trans hold')
    refine ⟨_, if_pos ⟨rfl, rfl⟩, ?_⟩
    rw [hold]
    exact hm.trans hsame
  · exact ⟨old, (if_neg hhere).trans hold, hm⟩

end Store

namespace Hardware

/-- A change on its way to the listener. -/
structure Notice where
  /-- Who committed it. -/
  writer : Nat
  /-- The slot that it was committed to. -/
  slot : Option Slot
  /-- The value as it was stored. -/
  change : PropertyValue

/-- Whether a change was committed to a slot of a property. -/
def Notice.isOf (prop : Int32) (slot : Slot) (n : Notice) : Bool :=
  n.change.prop = prop && n.slot = some slot

/-- Writers on one bench, and what they did so far. -/
structure Writers where
  /-- The bench. -/
  hw : Hardware
  /-- The changes in flight, in the order of their commits. -/
  inFlight : List Notice := []
  /-- The changes that were committed, in order. -/
  committed : List Notice := []
  /-- The changes that were announced, in order. -/
  delivered : List Notice := []

namespace Writers

/-- What a writer does in one turn. -/
inductive Turn where
  /-- It commits a value. -/
  | commit (writer : Nat) (v : PropertyValue) (updateStatus : Bool)
  /-- It announces the change that it has in flight. -/
  | deliver (writer : Nat)

/-- A commit. A change to announce is in flight from then on. -/
def commit (w : Writers) (writer : Nat) (v : PropertyValue) (updateStatus : Bool) : Writers :=
  match Hardware.commit v updateStatus w.hw with
  | .ok (some change) hw =>
    let notice : Notice := { writer, slot := w.hw.store.slotOf? v, change }
    { w with hw, inFlight := w.inFlight ++ [notice], committed := w.committed ++ [notice] }
  | .ok none hw | .error _ hw => { w with hw }

/-- An announcement of the change that a writer has in flight. -/
def deliver (w : Writers) (writer : Nat) : Writers :=
  match w.inFlight.find? fun n => n.writer = writer with
  | some notice =>
    { w with
      hw := (announce notice.change).final w.hw
      inFlight := w.inFlight.eraseP fun n => n.writer = writer
      delivered := w.delivered ++ [notice] }
  | none => w

/-- One turn. A writer that has a change in flight commits nothing. -/
def step (w : Writers) : Turn → Writers
  | .commit writer v updateStatus =>
    if w.inFlight.any fun n => n.writer = writer then w else w.commit writer v updateStatus
  | .deliver writer => w.deliver writer

/-- Some turns. -/
def run (w : Writers) (turns : List Turn) : Writers := turns.foldl step w

variable {hw : Hardware} {w w' : Writers}

/-! ## Turns -/

/-- What a turn can do. -/
inductive Step (w : Writers) : Writers → Prop where
  /-- Nothing. -/
  | idle : Step w w
  /-- A value is written without a change to announce. -/
  | quiet {v : PropertyValue} {updateStatus : Bool} {t : Store}
      (h : w.hw.store.write v updateStatus = .ok (t, none)) :
      Step w { w with hw := { w.hw with store := t } }
  /-- A change is committed by a writer that has none in flight. -/
  | committed {n : Notice} {v : PropertyValue} {updateStatus : Bool} {t : Store}
      (h : w.hw.store.write v updateStatus = .ok (t, some n.change))
      (hslot : n.slot = w.hw.store.slotOf? v) (hfree : ∀ m ∈ w.inFlight, m.writer ≠ n.writer) :
      Step w { w with
        hw := { w.hw with store := t }
        inFlight := w.inFlight ++ [n], committed := w.committed ++ [n] }
  /-- A change is announced. -/
  | delivered {n : Notice} {before after : List Notice} (h : w.inFlight = before ++ n :: after) :
      Step w { w with
        hw := { w.hw with events := w.hw.events ++ w.hw.changeEvents (some n.change) }
        inFlight := before ++ after, delivered := w.delivered ++ [n] }

/-- A commit does what a turn can do. -/
theorem step_commit (w : Writers) {writer : Nat} (hfree : ∀ n ∈ w.inFlight, n.writer ≠ writer)
    (v : PropertyValue) (updateStatus : Bool) : Step w (w.commit writer v updateStatus) := by
  unfold commit
  cases h : w.hw.store.write v updateStatus with
  | error e =>
    rw [commit_of_error h]
    exact .idle
  | ok r =>
    obtain ⟨t, change⟩ := r
    rw [commit_of_ok h]
    cases change with
    | none => exact .quiet h
    | some change =>
      exact .committed (n := { writer, slot := w.hw.store.slotOf? v, change }) h rfl hfree

/-- An announcement does what a turn can do. -/
theorem step_deliver (w : Writers) (writer : Nat) : Step w (w.deliver writer) := by
  unfold deliver
  cases hfind : w.inFlight.find? fun n => n.writer = writer with
  | none => exact .idle
  | some n =>
    obtain ⟨hn, before, after, hsplit, hbefore⟩ := List.find?_eq_some_iff_append.mp hfind
    have hown : ((n :: after).eraseP fun n => n.writer = writer) = after :=
      List.eraseP_cons_of_pos hn
    have hrest : (w.inFlight.eraseP fun n => n.writer = writer) = before ++ after := by
      rw [hsplit, List.eraseP_append_right _ fun m hm => by simpa using hbefore m hm, hown]
    dsimp only
    rw [hrest, final_announce]
    exact .delivered hsplit

/-- What a turn does. -/
theorem step_cases (w : Writers) (turn : Turn) : Step w (w.step turn) := by
  cases turn with
  | commit writer v updateStatus =>
    unfold step
    dsimp only
    split
    · exact .idle
    · next hfree => exact w.step_commit (by simpa using hfree) v updateStatus
  | deliver writer => exact w.step_deliver writer

/-- What every turn keeps is kept by all turns. -/
theorem run_keeps {P : Writers → Prop} (hstep : ∀ w w', Step w w' → P w → P w') (hp : P w)
    (turns : List Turn) : P (w.run turns) := by
  induction turns generalizing w with
  | nil => exact hp
  | cons turn rest ih => exact ih (hstep _ _ (w.step_cases turn) hp)

/-- A commit and the announcement after it make up a write. -/
theorem hw_commit_deliver (w : Writers) {writer : Nat}
    (hfree : ∀ n ∈ w.inFlight, n.writer ≠ writer) (v : PropertyValue) (updateStatus : Bool) :
    (w.run [.commit writer v updateStatus, .deliver writer]).hw =
      (write v updateStatus).final w.hw := by
  have hnone : (w.inFlight.any fun n => n.writer = writer) = false := by simpa using hfree
  have hfind : (w.inFlight.find? fun n => n.writer = writer) = none := by simpa using hfree
  have hrun : w.run [.commit writer v updateStatus, .deliver writer] =
      (w.commit writer v updateStatus).deliver writer := by
    simp only [run, List.foldl_cons, List.foldl_nil, step, hnone, Bool.false_eq_true, if_false]
  rw [hrun]
  unfold commit deliver
  cases h : w.hw.store.write v updateStatus with
  | error e =>
    rw [commit_of_error h, final_write_of_error h]
    dsimp only
    rw [hfind]
  | ok r =>
    obtain ⟨t, change⟩ := r
    rw [commit_of_ok h, final_write_of_ok h]
    cases change with
    | none =>
      dsimp only
      rw [hfind, changeEvents_none, List.append_nil]
    | some change =>
      dsimp only
      rw [List.find?_append, hfind]
      simp [final_announce, changeEvents]

/-! ## What is told -/

/-- That the listener was told of the announced changes and of nothing else. -/
structure Told (hw : Hardware) (w : Writers) : Prop where
  /-- It is the same listener. -/
  listener : w.hw.changeListener = hw.changeListener
  /-- The events are those of the announced changes. -/
  events : w.hw.events = hw.events ++ w.delivered.flatMap fun n => hw.changeEvents (some n.change)

/-- Each turn tells of what it announces and of nothing else. -/
theorem Step.told (h : Step w w') (hw : Hardware) (ht : Told hw w) : Told hw w' := by
  cases h with
  | idle => exact ht
  | quiet => exact ⟨ht.listener, ht.events⟩
  | committed => exact ⟨ht.listener, ht.events⟩
  | @delivered n =>
    have hn : w.hw.changeEvents (some n.change) = hw.changeEvents (some n.change) := by
      unfold changeEvents
      rw [ht.listener]
    refine ⟨ht.listener, ?_⟩
    dsimp only
    rw [ht.events, hn, List.flatMap_append, List.flatMap_singleton, List.append_assoc]

/-- Every change is announced once or still in flight. -/
theorem Step.perm (h : Step w w') (hp : w.committed.Perm (w.delivered ++ w.inFlight)) :
    w'.committed.Perm (w'.delivered ++ w'.inFlight) := by
  cases h with
  | idle => exact hp
  | quiet => exact hp
  | committed =>
    dsimp only
    rw [← List.append_assoc]
    exact hp.append_right _
  | @delivered n before after hsplit =>
    refine hp.trans ?_
    rw [hsplit, List.append_assoc]
    exact List.perm_middle.append_left _

/-! ## Order -/

/-- That the changes of a class were announced in the order of their commits, up to those in flight. -/
def InOrder (p : Notice → Bool) (w : Writers) : Prop :=
  w.committed.filter p = w.delivered.filter p ++ w.inFlight.filter p

/-- At first nothing is committed. -/
theorem inOrder_start (p : Notice → Bool) (hw : Hardware) : InOrder p { hw } := rfl

/-- A turn keeps the order of a class of which one change is in flight at most. -/
theorem Step.inOrder {p : Notice → Bool} (h : Step w w') (hone : (w.inFlight.filter p).length ≤ 1)
    (ho : InOrder p w) : InOrder p w' := by
  unfold InOrder at ho ⊢
  cases h with
  | idle => exact ho
  | quiet => exact ho
  | committed =>
    dsimp only
    rw [List.filter_append, List.filter_append, ho, List.append_assoc]
  | @delivered n before after hsplit =>
    dsimp only
    rw [hsplit] at hone ho
    rw [List.filter_append] at hone ho
    rw [ho, List.filter_append, List.filter_append]
    cases hn : p n with
    | false =>
      have hn' : ¬ p n = true := by simp [hn]
      rw [List.filter_cons_of_neg hn', List.filter_cons_of_neg hn', List.filter_nil,
        List.append_nil]
    | true =>
      rw [List.filter_cons_of_pos hn] at hone ⊢
      rw [List.filter_cons_of_pos hn, List.filter_nil]
      have hbefore : before.filter p = [] := by
        rw [List.length_append, List.length_cons] at hone
        exact List.eq_nil_of_length_eq_zero (by omega)
      rw [hbefore, List.nil_append, List.nil_append, List.append_assoc]
      rfl

/-- If there never are two changes of a class in flight, they are announced in order. -/
theorem inOrder_run {p : Notice → Bool} (ho : InOrder p w) (turns : List Turn)
    (hone : ∀ earlier, earlier <+: turns → ((w.run earlier).inFlight.filter p).length ≤ 1) :
    InOrder p (w.run turns) := by
  induction turns generalizing w with
  | nil => exact ho
  | cons turn rest ih =>
    have hfirst : InOrder p (w.step turn) :=
      (w.step_cases turn).inOrder (hone [] (List.nil_prefix)) ho
    refine ih hfirst fun earlier hearlier => ?_
    exact hone (turn :: earlier) (List.cons_prefix_cons.mpr ⟨rfl, hearlier⟩)

/-- That each writer has one change in flight at most. -/
def OneEach (w : Writers) : Prop := w.inFlight.Pairwise fun n m => n.writer ≠ m.writer

/-- At first nothing is in flight. -/
theorem oneEach_start (hw : Hardware) : OneEach { hw } := List.Pairwise.nil

/-- No turn puts a second change of a writer in flight. -/
theorem Step.oneEach (h : Step w w') (ho : OneEach w) : OneEach w' := by
  unfold OneEach at ho ⊢
  cases h with
  | idle => exact ho
  | quiet => exact ho
  | committed _ _ hfree =>
    refine List.pairwise_append.mpr ⟨ho, List.pairwise_singleton _ _, fun m hm n hn => ?_⟩
    rw [List.mem_singleton.mp hn]
    exact hfree m hm
  | @delivered n before after hsplit =>
    rw [hsplit] at ho
    exact ho.sublist (List.Sublist.append_left (List.sublist_cons_self n after) before)

/-- A writer has one change in flight at most. -/
theorem OneEach.length_le (ho : OneEach w) (writer : Nat) :
    (w.inFlight.filter fun n => n.writer = writer).length ≤ 1 := by
  have hpairs := ho.filter fun n => n.writer = writer
  have hall : ∀ n ∈ w.inFlight.filter (fun n => n.writer = writer), n.writer = writer :=
    fun n hn => by simpa using (List.mem_filter.mp hn).2
  generalize w.inFlight.filter (fun n => n.writer = writer) = own at hpairs hall
  match own with
  | [] => exact Nat.zero_le _
  | [n] => exact Nat.le_refl _
  | n :: m :: rest =>
    have hne := List.rel_of_pairwise_cons hpairs (List.mem_cons_self ..)
    have hn := hall n (List.mem_cons_self ..)
    have hm := hall m (List.mem_cons_of_mem _ (List.mem_cons_self ..))
    exact absurd (hn.trans hm.symm) hne

/-! ## Slots -/

/-- That a slot holds what the changes committed to it stand for. -/
structure Kept (prop : Int32) (slot : Slot) (w : Writers) : Prop where
  /-- The properties are found under their own ids. -/
  keyed : w.hw.store.Keyed
  /-- No change is older than one before it. -/
  ordered : (w.committed.filter (Notice.isOf prop slot)).Pairwise fun n m =>
    n.change.timestamp ≤ m.change.timestamp
  /-- No change is newer than the stored value. -/
  newer : ∀ n ∈ w.committed.filter (Notice.isOf prop slot), ∃ v,
    w.hw.store.value? prop slot = some v ∧ n.change.timestamp ≤ v.timestamp
  /-- The last change stands for the stored value. -/
  stands : ∀ last, (w.committed.filter (Notice.isOf prop slot)).getLast? = some last → ∃ v,
    w.hw.store.value? prop slot = some v ∧ last.change.StandsFor v

/-- At first no change was committed to any slot. -/
theorem kept_start (hk : hw.store.Keyed) (prop : Int32) (slot : Slot) : Kept prop slot { hw } where
  keyed := hk
  ordered := .nil
  newer _ hn := nomatch hn
  stands _ hlast := nomatch hlast

/-- A write after which the same changes of the slot are committed. -/
theorem Kept.of_written {prop : Int32} {slot : Slot} {t : Store} {v : PropertyValue}
    {updateStatus : Bool} {change : Option PropertyValue} {rules : SlotRules}
    (hk : Kept prop slot w) (hwritten : Store.Written w.hw.store v updateStatus t change rules)
    (hstands : ∀ m old, w.hw.store.value? prop slot = some old → PropertyValue.StandsFor m old →
      ∃ new, t.value? prop slot = some new ∧ m.StandsFor new)
    (hhw : w'.hw.store = t)
    (hcommitted : w'.committed.filter (Notice.isOf prop slot) =
      w.committed.filter (Notice.isOf prop slot)) : Kept prop slot w' where
  keyed := hhw ▸ hwritten.keyed hk.keyed
  ordered := hcommitted ▸ hk.ordered
  newer n hn := by
    obtain ⟨old, hold, hle⟩ := hk.newer n (hcommitted ▸ hn)
    obtain ⟨new, hnew, hle'⟩ := hwritten.newer hold
    exact ⟨new, hhw ▸ hnew, Int64.le_trans hle hle'⟩
  stands last hlast := by
    obtain ⟨old, hold, hm⟩ := hk.stands last (hcommitted ▸ hlast)
    exact hhw ▸ hstands _ old hold hm

/-- A commit to the slot itself. -/
theorem Kept.of_committed {t : Store} {v : PropertyValue} {updateStatus : Bool} {n : Notice}
    {rules : SlotRules} (hk : Kept v.prop (rules.slotOf v) w)
    (hwritten : Store.Written w.hw.store v updateStatus t (some n.change) rules)
    (hslot : n.slot = some (rules.slotOf v)) (hhw : w'.hw.store = t)
    (hcommitted : w'.committed = w.committed ++ [n]) : Kept v.prop (rules.slotOf v) w' := by
  have hvalue : w'.hw.store.value? v.prop (rules.slotOf v) = some n.change :=
    hhw ▸ hwritten.value_of_change
  have hn : n.isOf v.prop (rules.slotOf v) = true := by
    simp [Notice.isOf, hwritten.prop_of_change, hslot]
  have hfilter : w'.committed.filter (Notice.isOf v.prop (rules.slotOf v)) =
      w.committed.filter (Notice.isOf v.prop (rules.slotOf v)) ++ [n] := by
    rw [hcommitted, List.filter_append, List.filter_cons_of_pos hn, List.filter_nil]
  have hbefore : ∀ m ∈ w.committed.filter (Notice.isOf v.prop (rules.slotOf v)),
      m.change.timestamp ≤ n.change.timestamp := fun m hm => by
    obtain ⟨old, hold, hle⟩ := hk.newer m hm
    obtain ⟨new, hnew, hle'⟩ := hwritten.newer hold
    rw [Option.some.inj (hvalue.symm.trans (hhw ▸ hnew))]
    exact Int64.le_trans hle hle'
  refine ⟨hhw ▸ hwritten.keyed hk.keyed, ?_, fun m hm => ⟨_, hvalue, ?_⟩, fun last hlast => ?_⟩
  · rw [hfilter]
    refine List.pairwise_append.mpr ⟨hk.ordered, List.pairwise_singleton _ _, fun m hm m' hm' => ?_⟩
    rw [List.mem_singleton.mp hm']
    exact hbefore m hm
  · rw [hfilter] at hm
    rcases List.mem_append.mp hm with hm | hm
    · exact hbefore m hm
    · rw [List.mem_singleton.mp hm]
      exact Int64.le_refl _
  · rw [hfilter, List.getLast?_concat] at hlast
    exact ⟨_, hvalue, .inr (congrArg Notice.change (Option.some.inj hlast.symm))⟩

/-- Each turn leaves a slot with what was committed to it. -/
theorem Step.kept {prop : Int32} {slot : Slot} (h : Step w w') (hk : Kept prop slot w) :
    Kept prop slot w' := by
  cases h with
  | idle => exact hk
  | delivered => exact ⟨hk.keyed, hk.ordered, hk.newer, hk.stands⟩
  | quiet hwrite =>
    obtain ⟨rules, hwritten⟩ := Store.written_of_write hk.keyed hwrite
    exact hk.of_written hwritten (fun _ _ => hwritten.standsFor) rfl rfl
  | @committed n v updateStatus t hwrite hslot =>
    obtain ⟨rules, hwritten⟩ := Store.written_of_write hk.keyed hwrite
    rw [hwritten.slotOf?_eq] at hslot
    by_cases hhere : prop = v.prop ∧ slot = rules.slotOf v
    · obtain ⟨rfl, rfl⟩ := hhere
      exact hk.of_committed hwritten hslot rfl rfl
    · have hn : ¬ n.isOf prop slot = true := by
        simp only [Notice.isOf, hwritten.prop_of_change, hslot, Option.some.injEq,
          Bool.and_eq_true, decide_eq_true_eq]
        exact fun ⟨hprop, hslot⟩ => hhere ⟨hprop.symm, hslot.symm⟩
      refine hk.of_written hwritten (fun m old hold hm => ⟨old, ?_, hm⟩) rfl ?_
      · rw [hwritten.value_eq, if_neg hhere, hold]
      · rw [List.filter_append, List.filter_cons_of_neg hn, List.filter_nil, List.append_nil]

/-- When no change of the slot is in flight, the last one was announced and is the newest. -/
theorem Kept.newest {prop : Int32} {slot : Slot} (hk : Kept prop slot w)
    (hperm : w.committed.Perm (w.delivered ++ w.inFlight))
    (hnone : w.inFlight.filter (Notice.isOf prop slot) = []) {last : Notice}
    (hlast : (w.committed.filter (Notice.isOf prop slot)).getLast? = some last) :
    last ∈ w.delivered ∧ ∀ n ∈ w.delivered, n.isOf prop slot = true →
      n.change.timestamp ≤ last.change.timestamp := by
  have hall : (w.committed.filter (Notice.isOf prop slot)).Perm
      (w.delivered.filter (Notice.isOf prop slot)) := by
    have hfilter := hperm.filter (Notice.isOf prop slot)
    rwa [List.filter_append, hnone, List.append_nil] at hfilter
  have hmem := hall.mem_iff.mp (List.mem_of_getLast? hlast)
  refine ⟨(List.mem_filter.mp hmem).1, fun n hn hof => ?_⟩
  have hcommitted := hall.mem_iff.mpr (List.mem_filter.mpr ⟨hn, hof⟩)
  obtain ⟨front, hfront⟩ := List.getLast?_eq_some_iff.mp hlast
  have hordered := hk.ordered
  rw [hfront] at hordered hcommitted
  rcases List.mem_append.mp hcommitted with hbefore | hlast'
  · exact (List.pairwise_append.mp hordered).2.2 n hbefore last (List.mem_singleton_self last)
  · rw [List.mem_singleton.mp hlast']
    exact Int64.le_refl _

/-! ## Any turns -/

/-- Writers that take turns in any order on a bench. The listener is told of the announced changes
and of nothing else. Each change that was committed is announced once or still in flight, those of
one writer in the order of their commits. Those of a slot are announced in the order of their commits
too if there never were two of them in flight, so the last one stands for the stored value when none
is in flight. In any order of turns no change of a slot is older than one committed before it; the one
committed last stands for the stored value, and when none is in flight it was announced and none that
was announced is newer. -/
theorem announced_of_turns (hk : hw.store.Keyed) (turns : List Turn) :
    let w := run { hw } turns
    w.hw.events = hw.events ++ (w.delivered.flatMap fun n => hw.changeEvents (some n.change)) ∧
    w.committed.Perm (w.delivered ++ w.inFlight) ∧
    (∀ writer, InOrder (fun n => n.writer = writer) w) ∧
    ∀ prop slot,
      let isOf := Notice.isOf prop slot
      ((∀ earlier, earlier <+: turns → ((run { hw } earlier).inFlight.filter isOf).length ≤ 1) →
        InOrder isOf w ∧
        (w.inFlight.filter isOf = [] → ∀ last, (w.delivered.filter isOf).getLast? = some last →
          ∃ v, w.hw.store.value? prop slot = some v ∧ last.change.StandsFor v)) ∧
      ((w.committed.filter isOf).Pairwise fun n m => n.change.timestamp ≤ m.change.timestamp) ∧
      ∀ last, (w.committed.filter isOf).getLast? = some last →
        (∃ v, w.hw.store.value? prop slot = some v ∧ last.change.StandsFor v) ∧
        (w.inFlight.filter isOf = [] → last ∈ w.delivered ∧
          ∀ n ∈ w.delivered, isOf n = true → n.change.timestamp ≤ last.change.timestamp) := by
  intro w
  have htold : Told hw w :=
    run_keeps (fun _ _ h => h.told hw) ⟨rfl, (List.append_nil _).symm⟩ turns
  have hperm : w.committed.Perm (w.delivered ++ w.inFlight) :=
    run_keeps (P := fun w => w.committed.Perm (w.delivered ++ w.inFlight)) (fun _ _ h => h.perm)
      (List.Perm.refl _) turns
  have hone (earlier : List Turn) : OneEach (run { hw } earlier) :=
    run_keeps (fun _ _ h => h.oneEach) (oneEach_start hw) earlier
  refine ⟨htold.events, hperm, fun writer => ?_, fun prop slot => ?_⟩
  · exact inOrder_run (inOrder_start _ hw) turns fun earlier _ => (hone earlier).length_le writer
  intro isOf
  have hkept : Kept prop slot w := run_keeps (fun _ _ h => h.kept) (kept_start hk prop slot) turns
  refine ⟨fun halone => ?_, hkept.ordered, fun last hlast =>
    ⟨hkept.stands last hlast, fun hnone => hkept.newest hperm hnone hlast⟩⟩
  have horder : InOrder isOf w := inOrder_run (inOrder_start isOf hw) turns halone
  refine ⟨horder, fun hnone last hlast => hkept.stands last ?_⟩
  rw [horder, hnone, List.append_nil, hlast]

/-- The payloads of the changes that listeners were told of. -/
def toldPayloads (w : Writers) : List Payload := w.hw.events.filterMap fun
  | .change _ v => some v.payload
  | .setError .. => none

/-- Two writers write a number in turns. -/
theorem announced_of_alternation :
    let d : Declaration := { config := { prop := 5, type := .int32 }, initial := { int32s := [0] } }
    let hw := (ofDeclarations [d] [] (.ticking 2000000)).run [.listen { name := "dashboard" }]
    let number (n : Int32) (timestamp : Int64) : PropertyValue :=
      { prop := 5, timestamp, payload := { int32s := [n] } }
    let turns : List Turn := [.commit 0 (number 1 3000000) false, .deliver 0,
      .commit 1 (number 2 4000000) false, .deliver 1]
    let isOf := Notice.isOf 5 { area := 0, token := 0 }
    let w := run { hw } turns
    hw.store.Keyed ∧
      (∀ earlier, earlier <+: turns → ((run { hw } earlier).inFlight.filter isOf).length ≤ 1) ∧
      InOrder isOf w ∧ w.toldPayloads = [{ int32s := [1] }, { int32s := [2] }] := by
  intro d hw number turns isOf w
  have hk : hw.store.Keyed :=
    Reachable.coherent ⟨[d], [], .ticking 2000000, {}, _, rfl⟩ |>.keyed
  have halone : ∀ earlier ∈ turns.inits,
      ((run { hw } earlier).inFlight.filter isOf).length ≤ 1 := by decide +kernel
  have hprefixes (earlier : List Turn) (h : earlier <+: turns) :
      ((run { hw } earlier).inFlight.filter isOf).length ≤ 1 :=
    halone earlier ((List.mem_inits earlier turns).mpr h)
  obtain ⟨-, -, -, hslots⟩ := announced_of_turns hk turns
  exact ⟨hk, hprefixes, ((hslots 5 { area := 0, token := 0 }).1 hprefixes).1, by decide +kernel⟩

/-- Two writers write a number, and the one who was second announces its change first: the listener
is told of 2 and then of 1, and 2 is stored. A single writer writes -0 over 0, which counts as the
same content: the listener was told of 0, and -0 is stored. -/
theorem announced_out_of_order :
    let d (type : PropertyType) : Declaration := { config := { prop := 5, type } }
    let bench (type : PropertyType) : Hardware :=
      (ofDeclarations [d type] [] (.ticking 2000000)).run [.listen { name := "dashboard" }]
    let number (n : Int32) (timestamp : Int64) : PropertyValue :=
      { prop := 5, timestamp, payload := { int32s := [n] } }
    let zero (negative : Bool) (timestamp : Int64) : PropertyValue :=
      { prop := 5, timestamp, payload := { floats := [{ negative, code := 0 }] } }
    let crossed := run { hw := bench .int32 }
      [.commit 0 (number 1 3000000) false, .commit 1 (number 2 4000000) false, .deliver 1,
        .deliver 0]
    let unannounced := run { hw := bench .float }
      [.commit 0 (zero false 3000000) false, .deliver 0, .commit 0 (zero true 4000000) false,
        .deliver 0]
    let stored (w : Writers) : Option Payload :=
      (w.hw.store.value? 5 { area := 0, token := 0 }).map PropertyValue.payload
    (crossed.committed.map fun n => n.change.payload) = [{ int32s := [1] }, { int32s := [2] }] ∧
      crossed.toldPayloads = [{ int32s := [2] }, { int32s := [1] }] ∧
      crossed.inFlight.isEmpty = true ∧ stored crossed = some { int32s := [2] } ∧
      unannounced.toldPayloads = [(zero false 0).payload] ∧
      unannounced.inFlight.isEmpty = true ∧
      stored unannounced = some (zero true 0).payload := by
  decide +kernel

end Writers

end Hardware

end BenchVehicle
