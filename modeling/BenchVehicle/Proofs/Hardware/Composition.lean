import BenchVehicle.Proofs.Hardware.Effects

/-!
# Operations made of others

Operations are put together from given ones: one goes after another and may depend on its result,
failures may be reworded but go on showing as such, or become results. What holds between the bench
before and after each given operation, and carries over from one to the next, therefore holds of
whatever is made of them.
-/

namespace BenchVehicle

variable {α β : Type}

/-- That the code of a failure tells the client that something failed. -/
def Failure.Shows (e : Failure) : Prop := e.code ≠ .ok

/-- That a computation fails for no other than failures that show. -/
def FailuresShow (found : Except Failure α) : Prop := ∀ e, found = .error e → e.Shows

/-- What does not fail hides no failure. -/
theorem failuresShow_ok (a : α) : FailuresShow (.ok a) := fun _ h => nomatch h

/-- A cause shows if its code does. -/
theorem failuresShow_fail {c : Cause} (h : c.code ≠ .ok) :
    FailuresShow (c.fail : Except Failure α) :=
  fun _ he => by
    cases he
    exact h

/-- Computations one after the other show their failures if each does. -/
theorem FailuresShow.bind {found : Except Failure α} {next : α → Except Failure β}
    (h : FailuresShow found) (hnext : ∀ a, FailuresShow (next a)) :
    FailuresShow (found >>= next) := by
  cases found with
  | error e =>
    rintro e' ⟨⟩
    exact h e rfl
  | ok a => exact hnext a

namespace Op

open Hardware

/-- That a relation holds between the bench before an operation and after it, however that ends. -/
def Follows (R : Hardware → Hardware → Prop) (op : Op α) : Prop := ∀ hw, R hw (op.final hw)

/-- Operations that are made of given ones. -/
inductive Made (Given : ∀ ⦃α : Type⦄, Op α → Prop) : ∀ ⦃α : Type⦄, Op α → Prop where
  /-- A given operation. -/
  | given {α : Type} {op : Op α} (h : Given op) : Made Given op
  /-- Nothing but a result. -/
  | pure {α : Type} (a : α) : Made Given (Pure.pure a : Op α)
  /-- Nothing but going down. -/
  | crash {α : Type} : Made Given (throw .crashed : Op α)
  /-- One after the other. The second one depends on the result of the first. -/
  | andThen {α β : Type} {op : Op α} {next : α → Op β} (hop : Made Given op)
      (hnext : ∀ hw a mid, op hw = .ok a mid → Made Given (next a)) : Made Given (op >>= next)
  /-- An operation whose failures are reworded. -/
  | mapFailure {α : Type} {op : Op α} {f : Failure → Failure} (hop : Made Given op)
      (hf : ∀ e : Failure, e.Shows → (f e).Shows) : Made Given (op.mapFailure f)
  /-- An operation whose failure is one of its results. -/
  | result {α : Type} {op : Op α} (hop : Made Given op) : Made Given op.result

variable {R : Hardware → Hardware → Prop} {Given : ∀ ⦃α : Type⦄, Op α → Prop}

/-- Operations that are made one after the other are made. -/
theorem Made.bind {op : Op α} {next : α → Op β} (hop : Made Given op)
    (hnext : ∀ a, Made Given (next a)) : Made Given (op >>= next) :=
  hop.andThen fun _ a _ _ => hnext a

/-- An operation is made whatever activity its failures are reported under. -/
theorem Made.during {op : Op α} (hop : Made Given op) (activity : String) :
    Made Given (op.during activity) := hop.mapFailure fun _ h => h

/-- Operations for each of a list are made if each is. -/
theorem Made.forM {f : α → Op Unit} (hf : ∀ a, Made Given (f a)) (as : List α) :
    Made Given (as.forM f) := by
  induction as with
  | nil => exact .pure ()
  | cons a rest ih => exact (hf a).bind fun _ => ih

/-- A relation that carries over holds across operations one after the other, if it does across the
second with each result of the first. -/
theorem Follows.andThen {op : Op α} {next : α → Op β}
    (htrans : ∀ {hw mid hw'}, R hw mid → R mid hw' → R hw hw') (hop : op.Follows R)
    (hnext : ∀ hw a mid, op hw = .ok a mid → (next a).Follows R) : (op >>= next).Follows R := by
  intro hw
  have hfirst : R hw (op.final hw) := hop hw
  cases h : op hw with
  | error e mid =>
    rw [final_bind_error h]
    exact final_of_error h ▸ hfirst
  | ok a mid =>
    rw [final_bind_ok h]
    have hmid : R hw mid := final_of_ok h ▸ hfirst
    exact htrans hmid (hnext hw a mid h mid)

/-- What all given operations do, and carries over from one to the next, is what an operation does
that is made of them. -/
theorem Made.follows (hrefl : ∀ hw, R hw hw)
    (htrans : ∀ {hw mid hw'}, R hw mid → R mid hw' → R hw hw')
    (hgiven : ∀ ⦃α : Type⦄ ⦃op : Op α⦄, Given op → op.Follows R) {op : Op α}
    (h : Made Given op) : op.Follows R := by
  induction h with
  | given h => exact hgiven h
  | pure a => exact hrefl
  | crash => exact hrefl
  | andThen _ _ ihop ihnext => exact ihop.andThen htrans ihnext
  | mapFailure _ _ ih =>
    intro hw
    rw [final_mapFailure]
    exact ih hw
  | result _ ih =>
    intro hw
    rw [final_result]
    exact ih hw

/-- A relation that carries over holds across operations one after the other. -/
theorem Follows.bind {op : Op α} {next : α → Op β}
    (htrans : ∀ {hw mid hw'}, R hw mid → R mid hw' → R hw hw') (hop : op.Follows R)
    (hnext : ∀ a, (next a).Follows R) : (op >>= next).Follows R :=
  hop.andThen htrans fun _ a _ _ => hnext a

/-- The same for a computation that cannot end early. -/
def FollowsState (R : Hardware → Hardware → Prop) (c : StateM Hardware α) : Prop :=
  ∀ hw, R hw (c hw).2

/-- A relation holds across an attempt if it does across the operation. -/
theorem Follows.attempt {op : Op α} (hop : op.Follows R) : FollowsState R op.attempt := fun hw => by
  rw [snd_attempt]
  exact hop hw

/-- A relation that carries over holds across computations one after the other. -/
theorem FollowsState.bind {c : StateM Hardware α} {next : α → StateM Hardware β}
    (htrans : ∀ {hw mid hw'}, R hw mid → R mid hw' → R hw hw') (hc : FollowsState R c)
    (hnext : ∀ a, FollowsState R (next a)) : FollowsState R (c >>= next) :=
  fun hw => htrans (hc hw) (hnext (c hw).1 (c hw).2)

/-- A relation that carries over holds across computations for each of a list. -/
theorem followsState_mapM (hrefl : ∀ hw, R hw hw)
    (htrans : ∀ {hw mid hw'}, R hw mid → R mid hw' → R hw hw') {f : α → StateM Hardware β}
    (hf : ∀ a, FollowsState R (f a)) (as : List α) : FollowsState R (as.mapM f) := by
  induction as with
  | nil => exact hrefl
  | cons a rest ih =>
    rw [List.mapM_cons]
    exact (hf a).bind htrans fun _ => ih.bind htrans fun _ => hrefl

/-- A relation that carries over holds across the resolution of a batch. -/
theorem followsState_resolve (hrefl : ∀ hw, R hw hw)
    (htrans : ∀ {hw mid hw'}, R hw mid → R mid hw' → R hw hw') {ρ σ : Type}
    {answer : ρ → StateM Hardware (Option σ)} (hanswer : ∀ request, FollowsState R (answer request))
    (batch : List (Pending Nat ρ)) : FollowsState R (Pending.resolve answer batch) := by
  refine FollowsState.bind htrans (followsState_mapM hrefl htrans (fun p => ?_) batch) fun _ => hrefl
  exact (hanswer p.request).bind htrans fun _ => hrefl

/-- That an operation fails for no other than failures that show. -/
def Shown (op : Op α) : Prop := ∀ hw e mid, op hw = .error (.failed e) mid → e.Shows

/-- What is made of operations whose failures show is one itself. -/
theorem Made.shown (hgiven : ∀ ⦃α : Type⦄ ⦃op : Op α⦄, Given op → op.Shown) {op : Op α}
    (h : Made Given op) : op.Shown := by
  induction h with
  | given h => exact hgiven h
  | pure a => exact fun _ _ _ h => nomatch h
  | crash => exact fun _ _ _ h => nomatch h
  | andThen _ _ ihop ihnext =>
    intro hw e mid h
    rcases failed_of_bind h with hfirst | ⟨a, between, hfirst, hsecond⟩
    · exact ihop hw e mid hfirst
    · exact ihnext hw a between hfirst between e mid hsecond
  | mapFailure _ hf ih =>
    intro hw e mid h
    obtain ⟨e', rfl, hfailed⟩ := failed_of_mapFailure h
    exact hf e' (ih hw e' mid hfailed)
  | result _ _ => exact fun hw e mid h => absurd ⟨e, mid, h⟩ (not_fails_result _ hw)

end Op

end BenchVehicle
