import BenchVehicle.Proofs.Hardware.Snapshot

/-!
# What becomes of values put by

A value that was put by stays so until another value of its instance is put by or it is written
back. Writing back takes it first and asks the store then: if the store does not take the value,
the store is as it was, but what was put by is used up all the same.
-/

namespace BenchVehicle

namespace Hardware

open Op

variable {hw : Hardware} {key : PropertyKey} {v : PropertyValue} {o : Operation}

/-! ## Operations on what is put by -/

/-- That an operation puts by the value of an instance, by itself or as a command. -/
inductive Operation.Saves (key : PropertyKey) : Operation → Prop where
  | save : Saves key (.save key)
  | command {name : String} {arguments : List String} {v : PropertyValue}
      (hname : lowerAscii name = "--save-prop") (hread : Reading.valueOf 2 arguments = .ok v)
      (hkey : v.key = key) : Saves key (.command (name :: arguments))

/-- That an operation writes back what was put by for an instance, by itself or as a command. -/
inductive Operation.Restores (key : PropertyKey) : Operation → Prop where
  | restore : Restores key (.restore key)
  | command {name : String} {arguments : List String} {v : PropertyValue}
      (hname : lowerAscii name = "--restore-prop") (hread : Reading.valueOf 2 arguments = .ok v)
      (hkey : v.key = key) : Restores key (.command (name :: arguments))

/-- No other operation names the instance. -/
theorem Operation.snapshot?_eq_some (h : o.snapshot? = some key) :
    o.Saves key ∨ o.Restores key := by
  cases o with
  | save other =>
    cases h
    exact .inl .save
  | restore other =>
    cases h
    exact .inr .restore
  | command tokens =>
    cases tokens with
    | nil => cases h
    | cons name arguments =>
      rw [snapshot?, Command.snapshot?] at h
      split at h
      · next hname =>
        split at h
        · next v hread =>
          cases h
          rcases hname with hname | hname
          · exact .inl (.command hname hread rfl)
          · exact .inr (.command hname hread rfl)
        · cases h
      · cases h
  | _ => cases h

/-- The command that puts a value by, in either case of its name. -/
theorem run_save {name : String} {arguments : List String}
    (hname : lowerAscii name = "--save-prop") :
    Command.run (name :: arguments) = do return { text := ← Command.save arguments } := by
  unfold Command.run
  dsimp only
  rw [hname]
  rfl

/-- The command that writes back what was put by, in either case of its name. -/
theorem run_restore {name : String} {arguments : List String}
    (hname : lowerAscii name = "--restore-prop") :
    Command.run (name :: arguments) = do return { text := ← Command.restore arguments } := by
  unfold Command.run
  dsimp only
  rw [hname]
  rfl

/-- A command does to the bench what the operation does that it words. -/
theorem after_command {tokens : List String} {reading : Reading PropertyValue}
    (op : PropertyValue → Op Unit) {word : PropertyValue → Except Failure Unit → Op String}
    (hrun : Command.run tokens = do
      return { text := ← Command.withValue reading fun v => (op v).result >>= word v })
    (hread : reading = .ok v) (hword : ∀ r hw, (word v r).final hw = hw) (hw : Hardware) :
    hw.after (.command tokens) = (op v).final hw := by
  have hperform : perform (.command tokens) = do return .report (← Command.run tokens) := rfl
  rw [after_eq, hperform, final_bind_of_still fun _ _ => rfl, hrun,
    final_bind_of_still fun _ _ => rfl, hread, Command.withValue, final_bind_of_still hword,
    final_result]

/-- An operation that puts an instance by leaves what putting by leaves. -/
theorem Operation.Saves.after (h : o.Saves key) (hw : Hardware) :
    hw.after o = (Hardware.save key).final hw := by
  cases h with
  | save =>
    rw [after_eq]
    exact final_bind_pure (Hardware.save key) Answer.done hw
  | @command name arguments v hname hread hkey =>
    rw [← hkey]
    refine after_command (fun v => Hardware.save v.key) (run_save hname) hread ?_ hw
    intro r hw
    cases r <;> rfl

/-- An operation that writes an instance back leaves what writing back leaves. -/
theorem Operation.Restores.after (h : o.Restores key) (hw : Hardware) :
    hw.after o = (Hardware.restore key).final hw := by
  cases h with
  | restore =>
    rw [after_eq]
    exact final_bind_pure (Hardware.restore key) Answer.done hw
  | @command name arguments v hname hread hkey =>
    rw [← hkey]
    refine after_command (fun v => Hardware.restore v.key) (run_restore hname) hread ?_ hw
    intro r hw
    cases r <;> rfl

/-! ## One operation -/

/-- A bench from which what was put by for an instance is taken, and whose clock is read. -/
def taken (hw : Hardware) (key : PropertyKey) : Hardware :=
  { hw with saved := hw.saved.erase key, clock := hw.clock.read.2 }

/-- A value that was taken is not put by any more. -/
theorem get?_saved_taken (hw : Hardware) (key : PropertyKey) :
    (hw.taken key).saved.get? key = none := (SortedMap.get?_erase ..).trans (if_pos rfl)

/-- A value that was put by is taken before the store is asked, which may refuse it. -/
theorem restore_of_refused {e : Failure} (hv : hw.saved.get? key = some v)
    (h : hw.store.write { v with timestamp := hw.clock.now } false = .error e) :
    Hardware.restore key hw =
      .error (.failed (e.during "failed to restore property value")) (hw.taken key) := by
  have hrefused : (hw.taken key).store.write { v with timestamp := hw.clock.now } false =
      .error e := h
  have hwrite : write { v with timestamp := hw.clock.now } false (hw.taken key) =
      .error (.failed e) (hw.taken key) := bind_of_error (commit_of_error hrefused) _
  exact (restore_of_some hv).trans (during_of_failed hwrite _)

/-- What takes away a value that was put by. -/
inductive Departure (key : PropertyKey) (v : PropertyValue) (hw : Hardware) (o : Operation) :
    Prop where
  /-- The value that the instance has now is put by in its place. -/
  | replaced {new : PropertyValue} (saves : o.Saves key) (stored : hw.store.stored? key = some new)
      (kept : (hw.after o).saved.get? key = some new)
  /-- It is written back with a new time: the store accepts it, and a change is told of. -/
  | writtenBack {s : Store} {change : Option PropertyValue} (restores : o.Restores key)
      (accepted : hw.store.write { v with timestamp := hw.clock.now } false = .ok (s, change))
      (after : hw.after o =
        { hw.taken key with store := s, events := hw.events ++ hw.changeEvents change })
  /-- It is to be written back, but the store refuses it. It is used up, the clock was read, and
  nothing else happens to the bench. -/
  | usedUp {e : Failure} (restores : o.Restores key)
      (refused : hw.store.write { v with timestamp := hw.clock.now } false = .error e)
      (after : hw.after o = hw.taken key)

/-- An operation leaves a value put by, or it is one of those that take it away. -/
theorem kept_or_departure (hv : hw.saved.get? key = some v) (o : Operation) :
    (hw.after o).saved.get? key = some v ∨ Departure key v hw o := by
  by_cases hnamed : o.snapshot? = some key
  · rcases Operation.snapshot?_eq_some hnamed with hsaves | hrestores
    · cases hstored : hw.store.stored? key with
      | none =>
        obtain ⟨e, he⟩ := save_of_not_stored hstored
        rw [hsaves.after, final_of_error he]
        exact .inl hv
      | some new =>
        obtain ⟨pool, hok⟩ := save_of_stored hstored
        have hkept : (hw.after o).saved.get? key = some new := by
          rw [hsaves.after, final_of_ok hok]
          exact (SortedMap.get?_insert ..).trans (if_pos rfl)
        exact .inr (.replaced hsaves hstored hkept)
    · cases hwrite : hw.store.write { v with timestamp := hw.clock.now } false with
      | error e =>
        have hafter := (hrestores.after hw).trans (final_of_error (restore_of_refused hv hwrite))
        exact .inr (.usedUp hrestores hwrite hafter)
      | ok r =>
        have haccepted : (hw.taken key).store.write { v with timestamp := hw.clock.now } false =
            .ok (r.1, r.2) := hwrite
        have hfinal := (final_congr (restore_of_some hv)).trans
          ((final_during _ _ _).trans (final_write_of_ok haccepted))
        exact .inr (.writtenBack hrestores hwrite ((hrestores.after hw).trans hfinal))
  · exact .inl ((get?_saved_after hnamed).trans hv)

/-- Only putting a value by makes one that is put by. -/
theorem none_after (hv : hw.saved.get? key = none) (ho : ¬ o.Saves key) :
    (hw.after o).saved.get? key = none := by
  by_cases hnamed : o.snapshot? = some key
  · have hrestores := (Operation.snapshot?_eq_some hnamed).resolve_left ho
    exact (hrestores.after hw).symm ▸ get?_saved_restore hw key
  · exact (get?_saved_after hnamed).trans hv

/-! ## Histories -/

/-- A value stays put by throughout a history, up to an operation that takes it away. -/
theorem kept_or_departure_of_run (hv : hw.saved.get? key = some v) (history : List Operation) :
    (hw.run history).saved.get? key = some v ∨
      ∃ before o later, history = before ++ o :: later ∧
        (hw.run before).saved.get? key = some v ∧ Departure key v (hw.run before) o := by
  induction history generalizing hw with
  | nil => exact .inl hv
  | cons o rest ih =>
    rcases kept_or_departure hv o with hkept | hdeparture
    · rcases ih hkept with hend | ⟨before, o', later, rfl, hbefore, hdeparture⟩
      · exact .inl hend
      · exact .inr ⟨o :: before, o', later, rfl, hbefore, hdeparture⟩
    · exact .inr ⟨[], o, rest, rfl, hv, hdeparture⟩

/-- Nothing is put by for an instance that no operation puts by. -/
theorem none_of_run (hv : hw.saved.get? key = none) {history : List Operation}
    (h : ∀ o ∈ history, ¬ o.Saves key) : (hw.run history).saved.get? key = none := by
  induction history generalizing hw with
  | nil => exact hv
  | cons o rest ih =>
    rw [List.forall_mem_cons] at h
    exact ih (none_after hv h.1) h.2

/-- What becomes of a value that was put by. It stays put by throughout a history until the value
that its instance has then is put by in its place, or until it is written back. If the store refuses
it, writing it back fails. Then the store and everything that was told are as they were, but the
value is used up: it cannot be written back later, unless another one is put by. -/
theorem kept_until_taken :
    (∀ (hw hw' : Hardware) (key : PropertyKey), Hardware.save key hw = .ok () hw' →
      ∃ v, hw.store.stored? key = some v ∧ hw'.saved.get? key = some v) ∧
    (∀ (hw : Hardware) (key : PropertyKey) (v : PropertyValue), hw.saved.get? key = some v →
      ∀ history : List Operation, (hw.run history).saved.get? key = some v ∨
        ∃ before o later, history = before ++ o :: later ∧
          (hw.run before).saved.get? key = some v ∧ Departure key v (hw.run before) o) ∧
    ∀ (hw : Hardware) (key : PropertyKey) (v : PropertyValue) (e : Failure),
      hw.saved.get? key = some v →
      hw.store.write { v with timestamp := hw.clock.now } false = .error e →
        Hardware.restore key hw =
            .error (.failed (e.during "failed to restore property value")) (hw.taken key) ∧
          ∀ history : List Operation, (∀ o ∈ history, ¬ o.Saves key) →
            let later := (hw.taken key).run history
            ∃ e, Hardware.restore key later = .error (.failed e) later ∧
              e.code = .notAvailable := by
  refine ⟨fun hw hw' key hsave => ?_, fun _ _ _ hv history => kept_or_departure_of_run hv history,
    fun hw key v e hv hrefused => ⟨restore_of_refused hv hrefused, fun history h => ?_⟩⟩
  · cases hstored : hw.store.stored? key with
    | none =>
      obtain ⟨e, he⟩ := save_of_not_stored hstored
      rw [he] at hsave
      cases hsave
    | some v =>
      obtain ⟨pool, hok⟩ := save_of_stored hstored
      rw [hok] at hsave
      cases hsave
      exact ⟨v, rfl, (SortedMap.get?_insert ..).trans (if_pos rfl)⟩
  · exact ⟨_, restore_of_none (none_of_run (get?_saved_taken hw key) h), rfl⟩

/-- A bench whose number was put by. Then the vehicle sent another one, of a time to come. -/
def overtaken : Hardware :=
  counting.run [.save ⟨5, 0⟩,
    .takeFromBus { prop := 5, timestamp := 2000000000000000000, payload := { int32s := [7] } }]

/-- The number that was put by. -/
def counted : PropertyValue := { prop := 5, timestamp := 2000000, payload := { int32s := [1] } }

/-- The number cannot be written back before that time, and having tried, not after that either. -/
theorem kept_until_taken_of_overtaken :
    overtaken.saved.get? ⟨5, 0⟩ = some counted ∧
      (∃ e, Hardware.restore ⟨5, 0⟩ overtaken = .error (.failed e) (overtaken.taken ⟨5, 0⟩)) ∧
      let later := (overtaken.taken ⟨5, 0⟩).run [.set { prop := 5, payload := { int32s := [8] } }]
      ∃ e, Hardware.restore ⟨5, 0⟩ later = .error (.failed e) later ∧ e.code = .notAvailable := by
  have hsaved : overtaken.saved.get? ⟨5, 0⟩ = some counted := by decide +kernel
  obtain ⟨e, hrefused⟩ : ∃ e, overtaken.store.write
      { counted with timestamp := overtaken.clock.now } false = .error e := ⟨_, rfl⟩
  obtain ⟨hfailed, hlater⟩ := kept_until_taken.2.2 overtaken ⟨5, 0⟩ counted e hsaved hrefused
  refine ⟨hsaved, ⟨_, hfailed⟩, hlater _ fun o ho => ?_⟩
  rw [List.mem_singleton] at ho
  subst ho
  rintro ⟨⟩

/-- That a value that was put by stays so unless another one is put by in its place or the store
accepts it when it is written back. -/
def KeptUntilAccepted : Prop :=
  ∀ (hw : Hardware) (key : PropertyKey) (v : PropertyValue) (o : Operation), Reachable hw →
    hw.saved.get? key = some v → (hw.after o).saved.get? key = some v ∨
      (o.Saves key ∧ hw.store.stored? key ≠ none) ∨
      (o.Restores key ∧ (hw.store.write { v with timestamp := hw.clock.now } false).isOk = true)

/-- The number that was overtaken is lost without that. -/
theorem not_keptUntilAccepted : ¬ KeptUntilAccepted := by
  intro hall
  have hreach : Reachable overtaken := ⟨_, [], .ticking 2000000, {}, _, rfl⟩
  have hsaved : overtaken.saved.get? ⟨5, 0⟩ = some counted := by decide +kernel
  rcases hall overtaken ⟨5, 0⟩ counted (.restore ⟨5, 0⟩) hreach hsaved with
    hkept | ⟨hsaves, -⟩ | ⟨-, haccepted⟩
  · revert hkept
    decide +kernel
  · cases hsaves
  · revert haccepted
    decide +kernel

end Hardware

end BenchVehicle
