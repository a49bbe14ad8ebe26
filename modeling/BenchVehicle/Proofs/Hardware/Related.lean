import BenchVehicle.Proofs.Hardware.Accesses

/-!
# Related benches

Two benches that differ in something which an operation does not look at do the same and still differ
in nothing else. This carries over from the steps that operations are made of to the operations, so it
has to be shown for few steps only.
-/

namespace BenchVehicle

variable {α β : Type}

namespace Op

open Hardware

variable {R : Hardware → Hardware → Prop}

/-- That two outcomes agree and leave related benches. -/
inductive Agree (R : Hardware → Hardware → Prop) :
    EStateM.Result Interruption Hardware α → EStateM.Result Interruption Hardware α → Prop where
  /-- Both give the same result. -/
  | ok (a : α) {hw hw' : Hardware} (h : R hw hw') : Agree R (.ok a hw) (.ok a hw')
  /-- Both end early for the same reason. -/
  | error (e : Interruption) {hw hw' : Hardware} (h : R hw hw') :
      Agree R (.error e hw) (.error e hw')

/-- That an operation does not tell related benches apart and leaves them related. -/
def Respects (R : Hardware → Hardware → Prop) (op : Op α) : Prop :=
  ∀ ⦃hw hw'⦄, R hw hw' → Agree R (op hw) (op hw')

/-- A result alone does not tell related benches apart. -/
theorem respects_pure (a : α) : (pure a : Op α).Respects R := fun _ _ h => .ok a h

/-- An interruption does not tell related benches apart. -/
theorem respects_error (e : Interruption) : (throw e : Op α).Respects R := fun _ _ h => .error e h

/-- Operations one after the other respect a relation if the second does with each result of the
first. -/
theorem Respects.andThen {op : Op α} {next : α → Op β} (hop : op.Respects R)
    (hnext : ∀ hw a mid, op hw = .ok a mid → (next a).Respects R) : (op >>= next).Respects R := by
  intro hw hw' h
  have hagree := hop h
  generalize hfirst : op hw = first at hagree
  generalize hsecond : op hw' = second at hagree
  cases hagree with
  | ok a hmid =>
    rw [bind_of_ok hfirst, bind_of_ok hsecond]
    exact hnext hw a _ hfirst hmid
  | error e hmid =>
    rw [bind_of_error hfirst, bind_of_error hsecond]
    exact .error e hmid

/-- Operations one after the other respect a relation if each does. -/
theorem Respects.bind {op : Op α} {next : α → Op β} (hop : op.Respects R)
    (hnext : ∀ a, (next a).Respects R) : (op >>= next).Respects R :=
  hop.andThen fun _ a _ _ => hnext a

/-- How failures are worded does not matter to a relation. -/
theorem Respects.mapFailure {op : Op α} (hop : op.Respects R) (f : Failure → Failure) :
    (op.mapFailure f).Respects R := by
  intro hw hw' h
  have hagree := hop h
  unfold Op.mapFailure
  generalize op hw = first at hagree
  generalize op hw' = second at hagree
  cases hagree with
  | ok a hmid => exact .ok a hmid
  | error e hmid => cases e <;> exact .error _ hmid

/-- Looking at an outcome respects what the operation does. -/
theorem Respects.result {op : Op α} (hop : op.Respects R) : op.result.Respects R := by
  intro hw hw' h
  have hagree := hop h
  unfold Op.result
  generalize op hw = first at hagree
  generalize op hw' = second at hagree
  cases hagree with
  | ok a hmid => exact .ok _ hmid
  | error e hmid =>
    cases e with
    | failed e => exact .ok _ hmid
    | crashed => exact .error _ hmid

/-- What is made of operations that do not tell related benches apart does not do so either. -/
theorem Made.respects {Given : ∀ ⦃α : Type⦄, Op α → Prop}
    (hgiven : ∀ ⦃α : Type⦄ ⦃op : Op α⦄, Given op → op.Respects R) {op : Op α}
    (h : Made Given op) : op.Respects R := by
  induction h with
  | given h => exact hgiven h
  | pure a => exact respects_pure a
  | crash => exact respects_error _
  | andThen _ _ ihop ihnext => exact ihop.andThen ihnext
  | mapFailure _ _ ih => exact ih.mapFailure _
  | result _ ih => exact ih.result

/-- An operation that goes on with what related benches have in common. -/
theorem respects_get {next : Hardware → Op β} (hsame : ∀ hw hw', R hw hw' → next hw' = next hw)
    (hnext : ∀ hw, (next hw).Respects R) : (get >>= next : Op β).Respects R := by
  intro hw hw' h
  have hlook (hw : Hardware) : (get >>= next : Op β) hw = next hw hw := rfl
  rw [hlook, hlook, hsame hw hw' h]
  exact hnext hw h

/-- The same for a computation that cannot end early. -/
def RespectsState (R : Hardware → Hardware → Prop) (c : StateM Hardware α) : Prop :=
  ∀ ⦃hw hw'⦄, R hw hw' → (c hw').1 = (c hw).1 ∧ R (c hw).2 (c hw').2

/-- A result alone does not tell related benches apart. -/
theorem respectsState_pure (a : α) : RespectsState R (pure a) := fun _ _ h => ⟨rfl, h⟩

/-- Computations one after the other respect a relation if each does. -/
theorem RespectsState.bind {c : StateM Hardware α} {next : α → StateM Hardware β}
    (hc : RespectsState R c) (hnext : ∀ a, RespectsState R (next a)) :
    RespectsState R (c >>= next) := by
  intro hw hw' h
  have hbind (hw : Hardware) : (c >>= next) hw = next (c hw).1 (c hw).2 := rfl
  obtain ⟨hresult, hmid⟩ := hc h
  rw [hbind, hbind, hresult]
  exact hnext (c hw).1 hmid

/-- A computation that goes on with what related benches have in common. -/
theorem respectsState_get {next : Hardware → StateM Hardware β}
    (hsame : ∀ hw hw', R hw hw' → next hw' = next hw) (hnext : ∀ hw, RespectsState R (next hw)) :
    RespectsState R (get >>= next) := by
  intro hw hw' h
  have hlook (hw : Hardware) : (get >>= next : StateM Hardware β) hw = next hw hw := rfl
  rw [hlook, hlook, hsame hw hw' h]
  exact hnext hw h

/-- Computations for each of a list respect a relation if each does. -/
theorem respectsState_mapM {f : α → StateM Hardware β} (hf : ∀ a, RespectsState R (f a))
    (as : List α) : RespectsState R (as.mapM f) := by
  induction as with
  | nil => exact respectsState_pure []
  | cons a rest ih =>
    rw [List.mapM_cons]
    exact (hf a).bind fun _ => ih.bind fun _ => respectsState_pure _

/-- The resolution of a batch respects a relation if each answer does. -/
theorem respectsState_resolve {ρ σ : Type} {answer : ρ → StateM Hardware (Option σ)}
    (hanswer : ∀ request, RespectsState R (answer request)) (batch : List (Pending Nat ρ)) :
    RespectsState R (Pending.resolve answer batch) := by
  refine RespectsState.bind (respectsState_mapM (fun p => ?_) batch) fun _ => respectsState_pure _
  exact (hanswer p.request).bind fun _ => respectsState_pure _

/-- An attempt respects what the operation does. -/
theorem Respects.attempt {op : Op α} (hop : op.Respects R) : RespectsState R op.attempt := by
  intro hw hw' h
  have hagree := hop h
  unfold Op.attempt
  generalize op hw = first at hagree
  generalize op hw' = second at hagree
  cases hagree with
  | ok a hmid => exact ⟨rfl, hmid⟩
  | error e hmid => cases e <;> exact ⟨rfl, hmid⟩

end Op

namespace Hardware

open Op

/-- Relations between benches that differ in nothing that gets, sets and refreshes look at. -/
structure Overlooked (R : Hardware → Hardware → Prop) : Prop where
  /-- The same listeners are told. -/
  listeners : ∀ {hw hw'}, R hw hw' →
    hw'.changeListener = hw.changeListener ∧ hw'.errorListener = hw.errorListener
  /-- The same properties are declared. -/
  config : ∀ {hw hw'}, R hw hw' → ∀ prop, hw'.store.config prop = hw.store.config prop
  /-- The clock is read alike. -/
  now : now.Respects R
  /-- Events are recorded alike. -/
  tell : ∀ listener event, (tell listener event).Respects R
  /-- The same is handed out. -/
  read : ∀ {α : Type} {f : Store → Except Failure α × Store}, Store.HandsOut f →
    (fromStore f).Respects R
  /-- The same is written. -/
  commit : ∀ v updateStatus, (commit v updateStatus).Respects R
  /-- The same slot is emptied. -/
  removeStored : ∀ v, (removeStored v).Respects R
  /-- The same slots are emptied. -/
  removeAllStored : ∀ prop, (removeAllStored prop).Respects R
  /-- User management answers alike. -/
  askUserHal : ∀ request, (fromUserHal fun u => u.get request).Respects R
  /-- User management takes the same. -/
  tellUserHal : ∀ v, (fromUserHal fun u => u.set v).Respects R

namespace Overlooked

variable {R : Hardware → Hardware → Prop} (h : Overlooked R)

include h

/-- An announcement looks at nothing that is overlooked. -/
theorem respects_announce (v : PropertyValue) : (announce v).Respects R := by
  refine respects_get (fun hw hw' hrelated => by rw [(h.listeners hrelated).1]) fun hw => ?_
  cases hw.changeListener with
  | none => exact respects_pure ()
  | some listener => exact h.tell listener _

/-- A write looks at nothing that is overlooked. -/
theorem respects_write (v : PropertyValue) (updateStatus : Bool) :
    (write v updateStatus).Respects R := by
  refine (h.commit v updateStatus).bind fun change => ?_
  cases change with
  | none => exact respects_pure ()
  | some change => exact h.respects_announce change

/-- Writing back looks at nothing that is overlooked. -/
theorem respects_writeBack (v : PropertyValue) : (writeBack v).Respects R := by
  refine (h.commit v false).result.bind fun written => ?_
  split
  · exact h.respects_announce _
  · exact respects_pure ()

/-- An access check looks at nothing that is overlooked. -/
theorem respects_checkAccess (prop : Int32) (allowed : Access → Bool) :
    (checkAccess prop allowed).Respects R := by
  refine respects_get (fun hw hw' hrelated => by rw [h.config hrelated]) fun hw => ?_
  cases hw.store.config prop with
  | error e => exact respects_pure ()
  | ok config =>
    dsimp only
    split
    · exact respects_error _
    · exact respects_pure ()

/-- Taking a value from the vehicle looks at nothing that is overlooked. -/
theorem respects_takeFromBus (v : PropertyValue) : (takeFromBus v).Respects R := by
  refine (h.read (Store.handsOut_copy v)).bind fun arrived =>
    (h.commit arrived false).result.bind fun written => ?_
  split
  · exact h.respects_announce _
  · exact respects_pure ()
  · next e =>
    refine respects_get (fun hw hw' hrelated => by rw [(h.listeners hrelated).2]) fun hw => ?_
    cases hw.errorListener with
    | none => exact respects_pure ()
    | some listener => exact h.tell listener _

/-- What gets, sets and refreshes are made of does not tell the benches apart. -/
theorem covers : Covers fun _ op => op.Respects R where
  now := h.now
  refuse _ := respects_error _
  check {_ found} _ := by
    cases found with
    | ok a => exact respects_pure a
    | error e => exact respects_error _
  checkAccess := h.respects_checkAccess
  read hf _ := h.read hf
  askUserHal := h.askUserHal
  tellUserHal := h.tellUserHal
  write v updateStatus _ := h.respects_write v updateStatus
  writeBack := h.respects_writeBack
  removeStored := h.removeStored
  removeAllStored := h.removeAllStored

/-- Answering a get of a batch looks at nothing that is overlooked. -/
theorem respectsState_serveGet (request : GetRequest) : RespectsState R (serveGet request) := by
  have haccess := (h.covers.made_getForClient request.value).respects fun _ _ hgiven => hgiven
  refine haccess.attempt.bind fun found => ?_
  cases found <;> exact respectsState_pure _

/-- Answering a set of a batch looks at nothing that is overlooked. -/
theorem respectsState_serveSet (request : SetRequest) : RespectsState R (serveSet request) := by
  have haccess := (h.covers.made_setForClient request.value).respects fun _ _ hgiven => hgiven
  refine haccess.attempt.bind fun found => ?_
  cases found <;> exact respectsState_pure _

end Overlooked

end Hardware

end BenchVehicle
