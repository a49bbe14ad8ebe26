import BenchVehicle.Proofs.Hardware.Composition
import BenchVehicle.Proofs.Store.Pool

/-!
# What commands are made of

A command performs operations of the bench, one after the other, and words its answer by their
results, or goes down. Of the values that are put by, it touches at most the one of the instance that its
arguments name.
-/

namespace BenchVehicle.Command

open Op

/-- What commands perform. Values are put by and written back of the instances `named`. -/
inductive Performed (named : PropertyKey → Prop) : ∀ ⦃α : Type⦄, Op α → Prop where
  /-- A look at the bench, which does not see the pool. -/
  | look {α : Type} {f : Hardware → α}
      (hf : ∀ hw pool, f { hw with store := hw.store.withPool pool } = f hw) :
      Performed named (do return f (← get) : Op α)
  /-- A get. -/
  | getValue (request : PropertyValue) : Performed named (Hardware.getValue request)
  /-- A set. -/
  | setValue (v : PropertyValue) : Performed named (Hardware.setValue v)
  /-- A value from the vehicle. -/
  | takeFromBus (v : PropertyValue) : Performed named (Hardware.takeFromBus v)
  /-- A value is put by. -/
  | save {key : PropertyKey} (h : named key) : Performed named (Hardware.save key)
  /-- A value that was put by is written back. -/
  | restore {key : PropertyKey} (h : named key) : Performed named (Hardware.restore key)
  /-- A generator is started. -/
  | startGenerator (id : Int32) (generator : Generator) :
      Performed named (always (Hardware.startGenerator id generator))
  /-- A generator is stopped. -/
  | stopGenerator (id : Int32) : Performed named (always (Hardware.stopGenerator id))
  /-- A reading of the clock. -/
  | now : Performed named Hardware.now
  /-- An event that is made up, which shows a value as available. -/
  | announce (v : PropertyValue) (h : v.status = .available) : Performed named (Hardware.announce v)

/-- The instance whose value a command puts by or writes back, if it does either. -/
def snapshot? : List String → Option PropertyKey
  | [] => none
  | command :: arguments =>
    if lowerAscii command = "--save-prop" ∨ lowerAscii command = "--restore-prop" then
      match Reading.valueOf 2 arguments with
      | .ok v => some v.key
      | .error _ => none
    else none

/-- Operations that take in what commands perform that writes no value of the store. -/
structure CoversLooks (Given : ∀ ⦃α : Type⦄, Op α → Prop) : Prop where
  /-- A look at the bench. -/
  look : ∀ {α : Type} {f : Hardware → α},
    (∀ hw pool, f { hw with store := hw.store.withPool pool } = f hw) →
      Given (do return f (← get) : Op α)
  /-- A get. -/
  getValue : ∀ request, Given (Hardware.getValue request)
  /-- A generator is started. -/
  startGenerator : ∀ id generator, Given (always (Hardware.startGenerator id generator))
  /-- A generator is stopped. -/
  stopGenerator : ∀ id, Given (always (Hardware.stopGenerator id))
  /-- A reading of the clock. -/
  now : Given Hardware.now
  /-- An event that is made up. -/
  announce : ∀ v : PropertyValue, v.status = .available → Given (Hardware.announce v)

variable {named : PropertyKey → Prop} {Given : ∀ ⦃α : Type⦄, Op α → Prop}

/-- What commands perform takes in all that writes nothing. -/
theorem coversLooks_performed : CoversLooks (Performed named) where
  look := .look
  getValue := .getValue
  startGenerator := .startGenerator
  stopGenerator := .stopGenerator
  now := .now
  announce := .announce

/-- A text about a declaration, or about that there is none. -/
theorem made_ofConfig {found : PropertyConfig → Op String} {missing : Op String}
    (hfound : ∀ c, Made Given (found c)) (hmissing : Made Given missing)
    (result : Except Failure PropertyConfig) :
    Made Given (match result with
      | .ok c => found c
      | .error _ => missing) := by
  cases result with
  | ok c => exact hfound c
  | error e => exact hmissing

/-- A command with a value does what is to be done with it, or explains why there is none. -/
theorem made_withValue {reading : Reading PropertyValue} {act : PropertyValue → Op String}
    (hact : ∀ v, reading = .ok v → Made Given (act v)) : Made Given (withValue reading act) := by
  unfold withValue
  split
  · exact hact _ rfl
  · exact .pure _
  · exact .crash

/-! ## Commands that write nothing -/

namespace CoversLooks

variable (hgiven : CoversLooks Given)

include hgiven

/-- Showing an instance is a get. -/
theorem made_showInstance (prop area : Int32) : Made Given (showInstance prop area) := by
  refine (Made.given (hgiven.getValue _)).result.bind fun found => ?_
  cases found <;> exact .pure _

/-- Showing areas shows each instance. -/
theorem made_showAreas (row : Nat) (c : PropertyConfig) (place : Nat) (areas : List AreaConfig) :
    Made Given (showAreas row c place areas) := by
  induction areas generalizing place with
  | nil => exact .pure _
  | cons area rest ih =>
    exact (hgiven.made_showInstance _ _).bind fun _ => (ih (place + 1)).bind fun _ => .pure _

/-- Showing a property shows its areas. -/
theorem made_showProperty (row : Nat) (c : PropertyConfig) : Made Given (showProperty row c) := by
  unfold showProperty
  split
  · exact (hgiven.made_showInstance _ _).bind fun _ => .pure _
  · exact hgiven.made_showAreas row c 0 _

/-- Showing properties shows one after the other. -/
theorem made_showProperties (row : Nat) (cs : List PropertyConfig) :
    Made Given (showProperties row cs) := by
  induction cs generalizing row with
  | nil => exact .pure _
  | cons c rest ih =>
    exact (hgiven.made_showProperty row c).bind fun _ => (ih (row + 1)).bind fun _ => .pure _

/-- What is declared is seen at a look. -/
theorem made_declared : Made Given declared := .given (hgiven.look fun _ _ => rfl)

/-- An operation that goes on with what it sees of the bench. -/
theorem made_look {α β : Type} {f : Hardware → α} {next : α → Op β}
    (hf : ∀ hw pool, f { hw with store := hw.store.withPool pool } = f hw)
    (hnext : ∀ a, Made Given (next a)) : Made Given (get >>= fun hw => next (f hw)) := by
  have hmade : Made Given ((do return f (← get) : Op α) >>= next) :=
    (Made.given (hgiven.look hf)).bind hnext
  exact hmade

/-- Showing everything shows what is declared. -/
theorem made_showAll : Made Given showAll := by
  refine hgiven.made_declared.bind fun cs => ?_
  cases cs with
  | nil => exact .pure _
  | cons c rest => exact (hgiven.made_showProperties 1 _).bind fun _ => .pure _

/-- Showing ids takes a look at what is declared. -/
theorem made_showIds : Made Given showIds := by
  refine hgiven.made_declared.bind fun cs => ?_
  cases cs <;> exact .pure _

/-- Showing named properties looks each of them up. -/
theorem made_showNamed (row place : Nat) (arguments : List String) :
    Made Given (showNamed row place arguments) := by
  induction arguments generalizing row place with
  | nil => exact .pure _
  | cons argument rest ih =>
    unfold showNamed
    cases Reading.int32 argument with
    | error e =>
      cases e with
      | wrong e => exact (ih row (place + 1)).bind fun _ => .pure _
      | overflow => exact .crash
    | ok prop =>
      have hfound (c : PropertyConfig) := (hgiven.made_showProperty row c).bind fun text =>
        (ih (row + 1) (place + 1)).bind fun texts => .pure (text ++ texts)
      have hmissing := (ih row (place + 1)).bind fun texts =>
        .pure (line ("No property " ++ toString prop) ++ texts)
      exact hgiven.made_look (f := fun hw => hw.store.config prop) (fun _ _ => rfl)
        (made_ofConfig hfound hmissing)

/-- A get of properties by their ids shows each of them. -/
theorem made_getEach (arguments : List String) : Made Given (getEach arguments) := by
  unfold getEach
  split
  · exact .pure _
  · exact hgiven.made_showNamed 1 1 arguments

/-- A get with a value is a get. -/
theorem made_getWith (arguments : List String) : Made Given (getWith arguments) := by
  refine made_withValue fun request _ =>
    (Made.given (hgiven.getValue request)).result.bind fun found => ?_
  cases found <;> exact .pure _

/-- A linear generator is started, or its arguments are explained. -/
theorem made_startLinear (arguments : List String) : Made Given (startLinear arguments) := by
  unfold startLinear
  split
  · exact .pure _
  · refine (Made.given (hgiven.startGenerator _ _)).bind fun started => ?_
    cases started <;> exact .pure _

/-- A generator is stopped, or its argument is explained. -/
theorem made_stopLinear (arguments : List String) : Made Given (stopLinear arguments) := by
  unfold stopLinear
  split
  · split
    · exact .pure _
    · refine (Made.given (hgiven.stopGenerator _)).bind fun found => ?_
      cases found <;> exact .pure _
  · exact .pure _

/-- A key is told of at the time of now, whatever the store holds. -/
theorem made_tellKey (code display direction : Int32) :
    Made Given (tellKey code display direction) :=
  (Made.given hgiven.now).bind fun _ => .given (hgiven.announce _ rfl)

/-- A press of a key is told of, down and up. -/
theorem made_pressKey (arguments : List String) : Made Given (pressKey arguments) := by
  unfold pressKey
  split
  · exact .pure _
  · exact (hgiven.made_tellKey _ _ _).bind fun _ => (hgiven.made_tellKey _ _ _).bind fun _ =>
      .pure _

/-- What is made up is a generator or a key, and an overflow takes the command down. -/
theorem made_makeUp (arguments : List String) : Made Given (makeUp arguments) := by
  unfold makeUp
  split
  · exact .pure _
  · next command arguments =>
    extract_lets answer
    have hanswer (result : Reading String) : Made Given (answer result) := by
      cases result with
      | ok text => exact .pure _
      | error e =>
        cases e with
        | wrong e => exact .pure _
        | overflow => exact .crash
    split
    · exact (hgiven.made_startLinear arguments).bind hanswer
    · exact (hgiven.made_stopLinear arguments).bind hanswer
    · exact (hgiven.made_pressKey arguments).bind hanswer
    · exact (Made.pure _).bind hanswer

/-- The command of user management shows what is prepared, and changes nothing. -/
theorem made_userHal (arguments : List String) : Made Given (userHal arguments) := by
  unfold userHal
  split
  · exact .pure _
  · exact hgiven.made_look (f := fun hw => hw.userHal.report) (fun _ _ => rfl) fun _ => .pure _

end CoversLooks

/-! ## All commands -/

/-- A set with a value is a set. -/
theorem made_setWith (arguments : List String) : Made (Performed named) (setWith arguments) := by
  refine made_withValue fun v _ => (Made.given (.setValue v)).result.bind fun found => ?_
  cases found <;> exact .pure _

/-- Putting by touches the instance that the arguments name. -/
theorem made_save {arguments : List String}
    (hnamed : ∀ v, Reading.valueOf 2 arguments = .ok v → named v.key) :
    Made (Performed named) (save arguments) := by
  refine made_withValue fun v hv => (Made.given (.save (hnamed v hv))).result.bind fun found => ?_
  cases found <;> exact .pure _

/-- Writing back touches the instance that the arguments name. -/
theorem made_restore {arguments : List String}
    (hnamed : ∀ v, Reading.valueOf 2 arguments = .ok v → named v.key) :
    Made (Performed named) (restore arguments) := by
  refine made_withValue fun v hv => (Made.given (.restore (hnamed v hv))).result.bind fun found => ?_
  cases found <;> exact .pure _

/-- A value that is injected comes from the vehicle, at the time of now if it has none. -/
theorem made_inject (arguments : List String) : Made (Performed named) (inject arguments) := by
  refine made_withValue fun v _ => ?_
  extract_lets timed answer
  have hanswer (v : PropertyValue) : Made (Performed named) (answer v) :=
    (Made.given (.takeFromBus v)).bind fun _ => .pure _
  split
  · exact (Made.pure v).bind hanswer
  · exact (Made.given .now).bind fun _ => (Made.pure _).bind hanswer

/-- A command is made of what it performs. It puts by or writes back the value of the instance that
it names, and of no other. -/
theorem made_run (tokens : List String) :
    Made (Performed fun key => snapshot? tokens = some key) (run tokens) := by
  unfold run
  split
  · exact coversLooks_performed.made_showAll.bind fun _ => .pure _
  · next command arguments =>
    extract_lets answer
    have hanswer (text : String) : Made (Performed fun key =>
        snapshot? (command :: arguments) = some key) (answer text) := .pure _
    have hnamed (h : lowerAscii command = "--save-prop" ∨ lowerAscii command = "--restore-prop")
        (v : PropertyValue) (hv : Reading.valueOf 2 arguments = .ok v) :
        snapshot? (command :: arguments) = some v.key := by
      rw [snapshot?, if_pos h, hv]
    split
    · exact (Made.pure _).bind hanswer
    · exact coversLooks_performed.made_showIds.bind hanswer
    · exact (coversLooks_performed.made_getEach arguments).bind hanswer
    · exact (coversLooks_performed.made_getWith arguments).bind hanswer
    · exact (made_setWith arguments).bind hanswer
    · next h => exact (made_save (hnamed (.inl h))).bind hanswer
    · next h => exact (made_restore (hnamed (.inr h))).bind hanswer
    · exact (made_inject arguments).bind hanswer
    · exact (coversLooks_performed.made_userHal arguments).bind hanswer
    · exact (coversLooks_performed.made_makeUp arguments).bind hanswer
    · exact (Made.pure _).bind hanswer

end BenchVehicle.Command
