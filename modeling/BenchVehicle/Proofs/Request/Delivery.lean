import BenchVehicle.Request.Pipeline

/-!
# What a batch delivers

Grouping the results of a batch by caller. Each caller gets one delivery at most, none is empty,
and what a caller gets is what its requests gave, in their order. None of this depends on the
order in which the groups go out.
-/

namespace BenchVehicle.Delivery

variable {κ σ : Type} [DecidableEq κ]

/-- The results that the requests of a caller gave, in the order of the requests. -/
def resultsOf (caller : κ) (results : List (κ × Option σ)) : List σ :=
  results.flatMap fun r => if r.1 = caller then r.2.toList else []

/-- All results that deliveries hand to a caller, in the order of the deliveries. -/
def received (caller : κ) (deliveries : List (Delivery κ σ)) : List σ :=
  deliveries.flatMap fun d => if d.caller = caller then d.results else []

/-- Without deliveries nobody gets anything. -/
@[simp] theorem received_nil (caller : κ) : received caller ([] : List (Delivery κ σ)) = [] := rfl

/-- A caller gets what the first delivery has for it, then what the others have. -/
@[simp] theorem received_cons (caller : κ) (d : Delivery κ σ) (ds : List (Delivery κ σ)) :
    received caller (d :: ds) = (if d.caller = caller then d.results else []) ++ received caller ds :=
  rfl

/-- A caller gets what earlier deliveries have for it before what later ones have. -/
theorem received_append (caller : κ) (ds es : List (Delivery κ σ)) :
    received caller (ds ++ es) = received caller ds ++ received caller es := List.flatMap_append

/-- The results for a caller come in the order of the requests. -/
theorem resultsOf_append (caller : κ) (rs ss : List (κ × Option σ)) :
    resultsOf caller (rs ++ ss) = resultsOf caller rs ++ resultsOf caller ss := List.flatMap_append

/-- A caller that no delivery is for receives nothing. -/
theorem received_eq_nil {caller : κ} {ds : List (Delivery κ σ)}
    (h : caller ∉ ds.map Delivery.caller) : received caller ds = [] := by
  apply List.flatMap_eq_nil_iff.mpr
  intro d hd
  have hne : d.caller ≠ caller := fun he => h (List.mem_map.mpr ⟨d, hd, he⟩)
  rw [if_neg hne]

/-- With one delivery a caller, what a caller receives is that delivery. -/
theorem received_eq_results {ds : List (Delivery κ σ)} (hn : (ds.map Delivery.caller).Nodup)
    {d : Delivery κ σ} (hd : d ∈ ds) : received d.caller ds = d.results := by
  induction ds with
  | nil => cases hd
  | cons e rest ih =>
    obtain ⟨hfresh, hrest⟩ := List.nodup_cons.mp hn
    rcases List.mem_cons.mp hd with rfl | hd
    · rw [received_cons, if_pos rfl, received_eq_nil hfresh, List.append_nil]
    · have hne : e.caller ≠ d.caller := fun he => hfresh (he ▸ List.mem_map.mpr ⟨d, hd, rfl⟩)
      rw [received_cons, if_neg hne, List.nil_append]
      exact ih hrest hd

/-- The order in which deliveries go out does not matter to a caller, who gets one at most. -/
theorem received_perm {ds es : List (Delivery κ σ)} (hp : ds.Perm es)
    (hn : (es.map Delivery.caller).Nodup) (caller : κ) : received caller ds = received caller es := by
  have hnd : (ds.map Delivery.caller).Nodup := (hp.map _).nodup_iff.mpr hn
  by_cases h : caller ∈ es.map Delivery.caller
  · obtain ⟨d, hd, rfl⟩ := List.mem_map.mp h
    rw [received_eq_results hn hd, received_eq_results hnd (hp.mem_iff.mpr hd)]
  · have h' : caller ∉ ds.map Delivery.caller := fun hm => h ((hp.map _).mem_iff.mp hm)
    rw [received_eq_nil h, received_eq_nil h']

/-! ## Grouping -/

/-- After a result is put with its caller nobody else has come in. -/
theorem mem_callers_add (caller k : κ) (result : Option σ) (groups : List (Delivery κ σ)) :
    k ∈ (add caller result groups).map Delivery.caller ↔
      k = caller ∨ k ∈ groups.map Delivery.caller := by
  induction groups with
  | nil => simp [add]
  | cons d rest ih =>
    unfold add
    split
    · next h => simp [← h]
    · rw [List.map_cons, List.mem_cons, ih, List.map_cons, List.mem_cons]
      exact or_left_comm

/-- A result never opens a second group of its caller. -/
theorem nodup_callers_add (caller : κ) (result : Option σ) {groups : List (Delivery κ σ)}
    (hn : (groups.map Delivery.caller).Nodup) :
    ((add caller result groups).map Delivery.caller).Nodup := by
  induction groups with
  | nil => simp [add]
  | cons d rest ih =>
    obtain ⟨hfresh, hrest⟩ := List.nodup_cons.mp hn
    unfold add
    split
    · exact hn
    · next hne =>
      refine List.nodup_cons.mpr ⟨?_, ih hrest⟩
      rw [mem_callers_add]
      rintro (he | hm)
      · exact hne he
      · exact hfresh hm

/-- A result goes to the end of what its caller receives and to nobody else. -/
theorem received_add (caller k : κ) (result : Option σ) {groups : List (Delivery κ σ)}
    (hn : (groups.map Delivery.caller).Nodup) :
    received k (add caller result groups) =
      received k groups ++ if caller = k then result.toList else [] := by
  induction groups with
  | nil => simp [add]
  | cons d rest ih =>
    obtain ⟨hfresh, hrest⟩ := List.nodup_cons.mp hn
    unfold add
    split
    · next h =>
      subst h
      by_cases hk : d.caller = k
      · subst hk
        simp [received_eq_nil hfresh]
      · simp [hk]
    · rw [received_cons, received_cons, ih hrest, List.append_assoc]

/-- Groups with the results of a batch put to them. -/
private abbrev addAll (groups : List (Delivery κ σ)) (results : List (κ × Option σ)) :
    List (Delivery κ σ) :=
  results.foldl (fun groups r => add r.1 r.2 groups) groups

/-- Grouping results names no caller twice. -/
private theorem nodup_callers_addAll (results : List (κ × Option σ)) :
    ∀ groups : List (Delivery κ σ), (groups.map Delivery.caller).Nodup →
      ((addAll groups results).map Delivery.caller).Nodup := by
  induction results with
  | nil => exact fun _ hn => hn
  | cons r rest ih => exact fun _ hn => ih _ (nodup_callers_add r.1 r.2 hn)

/-- Grouping results gives each caller its own in their order. -/
private theorem received_addAll (k : κ) (results : List (κ × Option σ)) :
    ∀ groups : List (Delivery κ σ), (groups.map Delivery.caller).Nodup →
      received k (addAll groups results) = received k groups ++ resultsOf k results := by
  induction results with
  | nil => simp [addAll, resultsOf]
  | cons r rest ih =>
    intro groups hn
    have hstep := ih _ (nodup_callers_add r.1 r.2 hn)
    rw [received_add r.1 k r.2 hn, List.append_assoc] at hstep
    exact hstep

/-- Nobody misses the deliveries that are empty. -/
private theorem received_nonempty (k : κ) (ds : List (Delivery κ σ)) :
    received k (ds.filter fun d => !d.results.isEmpty) = received k ds := by
  induction ds with
  | nil => rfl
  | cons d rest ih =>
    rw [List.filter_cons, received_cons, ← ih]
    split
    · rfl
    · next h =>
      have hnil : d.results = [] := by simpa using h
      simp [hnil]

/-- Each caller gets one delivery at most. -/
theorem nodup_callers_group (results : List (κ × Option σ)) :
    ((group results).map Delivery.caller).Nodup := by
  have hn := nodup_callers_addAll results [] .nil
  exact hn.sublist (List.filter_sublist.map _)

/-- No delivery is empty. -/
theorem results_ne_nil_of_mem_group {results : List (κ × Option σ)} {d : Delivery κ σ}
    (hd : d ∈ group results) : d.results ≠ [] := by
  have h := (List.mem_filter.mp hd).2
  simpa using h

/-- A caller receives what its requests gave. -/
theorem received_group (caller : κ) (results : List (κ × Option σ)) :
    received caller (group results) = resultsOf caller results := by
  unfold group
  rw [received_nonempty]
  simpa using received_addAll caller results [] .nil

/-- Deliveries that go out for a batch, in any order, hand over whole groups: one for each caller
whose requests gave results, with all of these. -/
theorem mem_of_perm_group {ds : List (Delivery κ σ)} {results : List (κ × Option σ)}
    (hp : ds.Perm (group results)) (d : Delivery κ σ) :
    d ∈ ds ↔ d.results = resultsOf d.caller results ∧ d.results ≠ [] := by
  have hn := nodup_callers_group results
  rw [hp.mem_iff]
  constructor
  · intro hd
    refine ⟨?_, results_ne_nil_of_mem_group hd⟩
    rw [← received_group, received_eq_results hn hd]
  · rintro ⟨hr, hne⟩
    by_cases h : d.caller ∈ (group results).map Delivery.caller
    · obtain ⟨e, he, hc⟩ := List.mem_map.mp h
      have hsame : e.results = d.results := by
        rw [hr, ← hc, ← received_group, received_eq_results hn he]
      have heq : e = d := by
        cases e
        cases d
        cases hc
        cases hsame
        rfl
      exact heq ▸ he
    · rw [hr, ← received_group, received_eq_nil h] at hne
      exact absurd rfl hne

/-- What a delivery holds is the result of a request. -/
theorem result_of_mem_group {results : List (κ × Option σ)} {d : Delivery κ σ}
    (hd : d ∈ group results) {result : σ} (hresult : result ∈ d.results) :
    ∃ r ∈ results, r.2 = some result := by
  obtain ⟨hresults, -⟩ := (mem_of_perm_group (.refl _) d).mp hd
  rw [hresults] at hresult
  obtain ⟨r, hr, hgiven⟩ := List.mem_flatMap.mp hresult
  split at hgiven
  · exact ⟨r, hr, Option.mem_toList.mp hgiven⟩
  · cases hgiven

end BenchVehicle.Delivery
