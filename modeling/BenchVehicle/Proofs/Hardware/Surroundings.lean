import BenchVehicle.Proofs.Hardware.Operations
import BenchVehicle.Proofs.Hardware.Related
import BenchVehicle.Proofs.Hardware.Start
import BenchVehicle.Proofs.Timer.History

/-!
# The surroundings of the store

Besides the store a bench has values put by, what drives sampling and generators, and requests on
their way. No get or set looks at these surroundings or changes them. The few operations that do
change them do so in few ways, which are listed here once; what is always true of the surroundings
follows by going through the list.
-/

namespace BenchVehicle

/-- The parts of a bench that gets and sets have nothing to do with. -/
structure Surroundings where
  /-- The values put by. -/
  saved : SortedMap PropertyKey PropertyValue := .empty
  /-- What is stamped anew at a rate. -/
  sampler : Sampler := {}
  /-- The event generators. -/
  hub : GeneratorHub := {}
  /-- Requests for values. -/
  gets : Pipeline Nat GetRequest := {}
  /-- Requests to set values. -/
  sets : Pipeline Nat SetRequest := {}

namespace Hardware

/-- The surroundings of the store of a bench. -/
def surroundings (hw : Hardware) : Surroundings :=
  { saved := hw.saved, sampler := hw.sampler, hub := hw.hub, gets := hw.gets, sets := hw.sets }

/-- The bench with other surroundings. -/
def within (hw : Hardware) (s : Surroundings) : Hardware :=
  { hw with saved := s.saved, sampler := s.sampler, hub := s.hub, gets := s.gets, sets := s.sets }

/-- A bench in other surroundings has these. -/
@[simp] theorem surroundings_within (hw : Hardware) (s : Surroundings) :
    (hw.within s).surroundings = s := rfl

end Hardware

open Hardware

variable {α β : Type}

namespace Op

/-- What comes of an operation, with the bench in other surroundings. -/
def moved (s : Surroundings) :
    EStateM.Result Interruption Hardware α → EStateM.Result Interruption Hardware α
  | .ok a hw => .ok a (hw.within s)
  | .error e hw => .error e (hw.within s)

/-- That an operation does the same in all surroundings and leaves them as they are. -/
def Confined (op : Op α) : Prop := ∀ hw s, op (hw.within s) = moved s (op hw)

/-- That the second bench is the first one in given surroundings. -/
def Relocated (s : Surroundings) (hw hw' : Hardware) : Prop := hw' = hw.within s

/-- Outcomes agree in other surroundings if one is the other one moved there. -/
theorem agree_relocated_iff {s : Surroundings} {r r' : EStateM.Result Interruption Hardware α} :
    Agree (Relocated s) r r' ↔ r' = moved s r := by
  constructor
  · rintro (⟨a, rfl⟩ | ⟨e, rfl⟩) <;> rfl
  · rintro rfl
    cases r with
    | ok a hw => exact .ok a rfl
    | error e hw => exact .error e rfl

/-- An operation is confined if it tells no bench from the same bench in other surroundings. -/
theorem confined_iff {op : Op α} : op.Confined ↔ ∀ s, op.Respects (Relocated s) := by
  constructor
  · rintro hop s hw _ rfl
    exact agree_relocated_iff.mpr (hop hw s)
  · exact fun hop hw s => agree_relocated_iff.mp (hop s rfl)

/-- A confined operation leaves the surroundings as they are. -/
theorem Confined.surroundings {op : Op α} (hop : op.Confined) (hw : Hardware) :
    (op.final hw).surroundings = hw.surroundings := by
  have hmoved : op hw = moved hw.surroundings (op hw) := hop hw hw.surroundings
  cases h : op hw with
  | ok a mid =>
    rw [h] at hmoved
    have hsame : mid = mid.within hw.surroundings := (EStateM.Result.ok.inj hmoved).2
    rw [final_of_ok h, hsame, surroundings_within]
  | error e mid =>
    rw [h] at hmoved
    have hsame : mid = mid.within hw.surroundings := (EStateM.Result.error.inj hmoved).2
    rw [final_of_error h, hsame, surroundings_within]

/-- The same for a computation that cannot end early. -/
def ConfinedState (c : StateM Hardware α) : Prop :=
  ∀ hw s, c (hw.within s) = ((c hw).1, (c hw).2.within s)

/-- A computation is confined if it does the same in all surroundings. -/
theorem confinedState_iff {c : StateM Hardware α} :
    ConfinedState c ↔ ∀ s, RespectsState (Relocated s) c := by
  constructor
  · rintro hc s hw _ rfl
    exact Prod.ext_iff.mp (hc hw s)
  · exact fun hc hw s => Prod.ext_iff.mpr (hc s rfl)

/-- A result alone is confined. -/
theorem confinedState_pure (a : α) : ConfinedState (pure a) := fun _ _ => rfl

/-- Confined computations one after the other are confined. -/
theorem ConfinedState.bind {c : StateM Hardware α} {next : α → StateM Hardware β}
    (hc : ConfinedState c) (hnext : ∀ a, ConfinedState (next a)) : ConfinedState (c >>= next) :=
  confinedState_iff.mpr fun s =>
    (confinedState_iff.mp hc s).bind fun a => confinedState_iff.mp (hnext a) s

/-- Confined computations for each of a list are confined. -/
theorem confinedState_mapM {f : α → StateM Hardware β} (hf : ∀ a, ConfinedState (f a))
    (as : List α) : ConfinedState (as.mapM f) :=
  confinedState_iff.mpr fun s => respectsState_mapM (fun a => confinedState_iff.mp (hf a) s) as

/-- A batch is resolved in all surroundings alike if each request is answered so. -/
theorem confinedState_resolve {ρ σ : Type} {answer : ρ → StateM Hardware (Option σ)}
    (hanswer : ∀ request, ConfinedState (answer request)) (batch : List (Pending Nat ρ)) :
    ConfinedState (Pending.resolve answer batch) :=
  confinedState_iff.mpr fun s =>
    respectsState_resolve (fun request => confinedState_iff.mp (hanswer request) s) batch

/-- An attempt at a confined operation is confined. -/
theorem Confined.attempt {op : Op α} (hop : op.Confined) : ConfinedState op.attempt :=
  confinedState_iff.mpr fun s => (confined_iff.mp hop s).attempt

/-- A confined computation leaves the surroundings as they are. -/
theorem ConfinedState.surroundings {c : StateM Hardware α} (hc : ConfinedState c) (hw : Hardware) :
    (c hw).2.surroundings = hw.surroundings := by
  have hmoved : c hw = ((c hw).1, (c hw).2.within hw.surroundings) := hc hw hw.surroundings
  rw [hmoved, surroundings_within]

end Op

namespace Hardware

open Op

/-! ## Gets, sets and refreshes -/

/-- The clock is no part of the surroundings. -/
theorem confined_now : now.Confined := fun _ _ => rfl

/-- What the store does is confined. -/
theorem confined_fromStore (f : Store → Except Failure α × Store) : (fromStore f).Confined := by
  intro hw s
  have hstore : (hw.within s).store = hw.store := rfl
  unfold fromStore
  rw [hstore]
  cases f hw.store with
  | mk found store => cases found <;> rfl

/-- What user management does is confined. -/
theorem confined_fromUserHal (f : UserHal → Except Failure (α × UserHal)) :
    (fromUserHal f).Confined := by
  intro hw s
  have huser : (hw.within s).userHal = hw.userHal := rfl
  unfold fromUserHal
  rw [huser]
  cases f hw.userHal <;> rfl

/-- Telling a listener something is confined. -/
theorem confined_tell (listener : Listener) (event : Event) : (tell listener event).Confined := by
  intro hw s
  unfold tell
  dsimp only
  split <;> rfl

/-- Gets, sets and refreshes overlook the surroundings. -/
theorem overlooked_relocated (s : Surroundings) : Overlooked (Relocated s) where
  listeners := by rintro _ _ rfl; exact ⟨rfl, rfl⟩
  config := by rintro _ _ rfl _; rfl
  now := confined_iff.mp confined_now s
  tell listener event := confined_iff.mp (confined_tell listener event) s
  read _ := confined_iff.mp (confined_fromStore _) s
  commit _ _ := confined_iff.mp (confined_fromStore _) s
  removeStored _ := confined_iff.mp (confined_fromStore _) s
  removeAllStored _ := confined_iff.mp (confined_fromStore _) s
  askUserHal _ := confined_iff.mp (confined_fromUserHal _) s
  tellUserHal _ := confined_iff.mp (confined_fromUserHal _) s

/-- An announcement is confined. -/
theorem confined_announce (v : PropertyValue) : (announce v).Confined :=
  confined_iff.mpr fun s => (overlooked_relocated s).respects_announce v

/-- A write is confined. -/
theorem confined_write (v : PropertyValue) (updateStatus : Bool) :
    (write v updateStatus).Confined :=
  confined_iff.mpr fun s => (overlooked_relocated s).respects_write v updateStatus

/-- Taking a value from the vehicle is confined. -/
theorem confined_takeFromBus (v : PropertyValue) : (Hardware.takeFromBus v).Confined :=
  confined_iff.mpr fun s => (overlooked_relocated s).respects_takeFromBus v

/-- Answering a get of a batch is confined. -/
theorem confinedState_serveGet (request : GetRequest) : ConfinedState (serveGet request) :=
  confinedState_iff.mpr fun s => (overlooked_relocated s).respectsState_serveGet request

/-- Answering a set of a batch is confined. -/
theorem confinedState_serveSet (request : SetRequest) : ConfinedState (serveSet request) :=
  confinedState_iff.mpr fun s => (overlooked_relocated s).respectsState_serveSet request

/-- Every step of accesses does the same in all surroundings. -/
theorem AccessStep.respects {op : Op α} (h : AccessStep op) (s : Surroundings) :
    op.Respects (Relocated s) := by
  cases h with
  | now => exact (overlooked_relocated s).now
  | refuse => exact respects_error _
  | check h => exact (overlooked_relocated s).covers.check h
  | checkAccess prop allowed => exact (overlooked_relocated s).respects_checkAccess prop allowed
  | read => exact confined_iff.mp (confined_fromStore _) s
  | userHal => exact confined_iff.mp (confined_fromUserHal _) s
  | write v updateStatus => exact (overlooked_relocated s).respects_write v updateStatus
  | writeBack v => exact (overlooked_relocated s).respects_writeBack v
  | removeStored v => exact (overlooked_relocated s).removeStored v
  | removeAllStored prop => exact (overlooked_relocated s).removeAllStored prop

/-- Whatever is made of the steps of gets and sets has nothing to do with the surroundings. -/
theorem confined_of_made {op : Op α} (h : Made AccessStep op) : op.Confined :=
  confined_iff.mpr fun s => h.respects fun _ _ hgiven => hgiven.respects s

/-! ## Workers -/

/-- The worker of gets resolves the batch that it finds. -/
theorem workGets_of_some {hw : Hardware} {batch : List (Pending Nat GetRequest)}
    {gets : Pipeline Nat GetRequest} (h : hw.gets.advance.finish? = some (batch, gets)) :
    Hardware.workGets hw = (Pending.resolve (fun request => return some (← serveGet request)) batch :
      StateM Hardware (List (Delivery Nat GetResult))) { hw with gets } := by
  unfold Hardware.workGets
  simp only [bind, StateT.bind, get, getThe, MonadStateOf.get, StateT.get, pure, h]
  rfl

/-- Without a batch the worker of gets does nothing. -/
theorem workGets_of_none {hw : Hardware} (h : hw.gets.advance.finish? = none) :
    Hardware.workGets hw = ([], hw) := by
  unfold Hardware.workGets
  simp only [bind, StateT.bind, get, getThe, MonadStateOf.get, StateT.get, pure, h]
  rfl

/-- The worker of sets resolves the batch that it finds. -/
theorem workSets_of_some {hw : Hardware} {batch : List (Pending Nat SetRequest)}
    {sets : Pipeline Nat SetRequest} (h : hw.sets.advance.finish? = some (batch, sets)) :
    Hardware.workSets hw = (Pending.resolve (fun request => return some (← serveSet request)) batch :
      StateM Hardware (List (Delivery Nat SetResult))) { hw with sets } := by
  unfold Hardware.workSets
  simp only [bind, StateT.bind, get, getThe, MonadStateOf.get, StateT.get, pure, h]
  rfl

/-- Without a batch the worker of sets does nothing. -/
theorem workSets_of_none {hw : Hardware} (h : hw.sets.advance.finish? = none) :
    Hardware.workSets hw = ([], hw) := by
  unfold Hardware.workSets
  simp only [bind, StateT.bind, get, getThe, MonadStateOf.get, StateT.get, pure, h]
  rfl

/-! ## The start -/

/-- A bench starts with nothing around its store. -/
theorem surroundings_ofDeclarations (declarations : List Declaration) (overrides : List PropertyValue)
    (clock : Clock) (pool : ValuePool) :
    (ofDeclarations declarations overrides clock pool).surroundings = {} := by
  have hstep (hw hw' : Hardware) (h : StartStep overrides hw hw')
      (hs : hw.surroundings = {}) : hw'.surroundings = {} := by
    cases h <;> exact hs
  exact (starts_ofDeclarations declarations overrides clock pool).keeps hstep rfl

end Hardware

end BenchVehicle
