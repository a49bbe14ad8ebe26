import BenchVehicle.Proofs.SortedMap
import BenchVehicle.Proofs.Store.Slots

/-!
# The order of slots and properties

The values of a property are kept in the order of their slots, whatever is done to the store. So a
list of the values of a property has no slot twice, and shows them in a fixed order. The properties
themselves are kept in the order of their ids, so the declarations are listed once each.
-/

namespace BenchVehicle

namespace Slot

variable {a b c : Slot}

/-- Slots are in the order of their areas, then of their tokens. -/
theorem lt_iff : a < b ↔ a.area < b.area ∨ a.area = b.area ∧ a.token < b.token := Iff.rfl

/-- Slots of one area are ordered by their tokens. -/
theorem token_lt_of_lt (h : a < b) (harea : a.area = b.area) : a.token < b.token := by
  rcases lt_iff.mp h with hlt | ⟨-, hlt⟩
  · rw [harea] at hlt
    exact (Int32.lt_irrefl hlt).elim
  · exact hlt

/-- The order of slots carries over. -/
theorem lt_trans (hab : a < b) (hbc : b < c) : a < c := by
  rcases lt_iff.mp hab with hab | ⟨harea, hab⟩ <;> rcases lt_iff.mp hbc with hbc | ⟨harea', hbc⟩
  · exact .inl (Int32.lt_trans hab hbc)
  · exact .inl (harea' ▸ hab)
  · exact .inl (harea ▸ hbc)
  · exact .inr ⟨harea.trans harea', Int64.lt_trans hab hbc⟩

instance : Std.Irrefl (α := Slot) (· < ·) where
  irrefl a h := by
    rcases lt_iff.mp h with h | ⟨-, h⟩
    · exact Int32.lt_irrefl h
    · exact Int64.lt_irrefl h

instance : Trans (α := Slot) (β := Slot) (γ := Slot) (· < ·) (· < ·) (· < ·) := ⟨lt_trans⟩

instance : Std.Trichotomous (α := Slot) (· < ·) where
  trichotomous a b hab hba := by
    obtain ⟨area, token⟩ := a
    obtain ⟨area', token'⟩ := b
    obtain rfl : area = area' := Std.Trichotomous.trichotomous area area'
      (fun h => hab (.inl h)) fun h => hba (.inl h)
    obtain rfl : token = token' := Std.Trichotomous.trichotomous token token'
      (fun h => hab (.inr ⟨rfl, h⟩)) fun h => hba (.inr ⟨rfl, h⟩)
    rfl

end Slot

namespace Store

variable {s t : Store}

/-- That the values of each property are in the order of their slots. -/
def Ordered (s : Store) : Prop := ∀ prop r, s.records.get? prop = some r → r.values.Ordered

/-- In an empty store all values are in order. -/
theorem ordered_empty (pool : ValuePool) : Ordered { pool } := fun _ _ h => nomatch h

/-- Only the records matter for the order of values. -/
theorem Ordered.of_records (ho : s.Ordered) (h : t.records = s.records) : t.Ordered := by
  unfold Ordered
  rw [h]
  exact ho

/-- A record whose values are in order leaves those of the store in order. -/
theorem Ordered.giveUp_withRecord (ho : s.Ordered) {r : Record} (hr : r.values.Ordered)
    (vs : List PropertyValue) : ((s.withRecord r).giveUp vs).Ordered := by
  intro prop r' h
  rw [get?_giveUp_withRecord] at h
  split at h
  · cases h
    exact hr
  · exact ho prop r' h

/-- A declaration leaves the values in order. -/
theorem Ordered.register (ho : s.Ordered) (config : PropertyConfig) (token : TokenRule) :
    (s.register config token).Ordered := ho.giveUp_withRecord SortedMap.ordered_empty _

/-- A write leaves the values in order. -/
theorem Ordered.write (ho : s.Ordered) {v : PropertyValue} {updateStatus : Bool}
    {change : Option PropertyValue} (h : s.write v updateStatus = .ok (t, change)) : t.Ordered := by
  cases hr : s.records.get? v.prop with
  | none =>
    rw [write_of_undeclared (rules?_eq_none.mpr hr)] at h
    cases h
  | some r =>
    rw [write_of_record hr] at h
    split at h
    · cases h
    split at h
    · cases h
    · cases h
      exact ho.giveUp_withRecord ((ho v.prop r hr).insert _ _) _

/-- A removal leaves the values in order. -/
theorem Ordered.remove (ho : s.Ordered) (v : PropertyValue) : (s.remove v).Ordered := by
  unfold Store.remove removeSlot
  split
  · next r hr =>
    split
    · exact ho.giveUp_withRecord ((ho v.prop r hr).erase _) _
    · exact ho
  · exact ho

/-- The removal of all values of a property leaves the others in order. -/
theorem Ordered.removeAll (ho : s.Ordered) (prop : Int32) : (s.removeAll prop).Ordered := by
  unfold Store.removeAll
  split
  · exact ho.giveUp_withRecord SortedMap.ordered_empty _
  · exact ho

/-! ## Properties -/

/-- That the properties are in the order of their ids. -/
def Sorted (s : Store) : Prop := s.records.Ordered

/-- In an empty store the properties are in order. -/
theorem sorted_empty (pool : ValuePool) : Sorted { pool } := SortedMap.ordered_empty

/-- A record that is put in leaves the properties in order. -/
theorem Sorted.giveUp_withRecord (hs : s.Sorted) (r : Record) (vs : List PropertyValue) :
    ((s.withRecord r).giveUp vs).Sorted := SortedMap.Ordered.insert hs r.config.prop r

/-- A declaration leaves the properties in order. -/
theorem Sorted.register (hs : s.Sorted) (config : PropertyConfig) (token : TokenRule) :
    (s.register config token).Sorted := hs.giveUp_withRecord _ _

/-- A write leaves the properties in order. -/
theorem Sorted.write (hs : s.Sorted) {v : PropertyValue} {updateStatus : Bool}
    {change : Option PropertyValue} (h : s.write v updateStatus = .ok (t, change)) : t.Sorted := by
  cases hr : s.records.get? v.prop with
  | none =>
    rw [write_of_undeclared (rules?_eq_none.mpr hr)] at h
    cases h
  | some r =>
    rw [write_of_record hr] at h
    split at h
    · cases h
    split at h
    · cases h
    · cases h
      exact hs.giveUp_withRecord _ _

/-- What is listed is what is declared. -/
theorem Sorted.mem_configs_iff (hs : s.Sorted) (hk : s.Keyed) {c : PropertyConfig} :
    c ∈ s.configs ↔ ∃ rules, s.rules? c.prop = some rules ∧ rules.config = c := by
  have hentry {prop : Int32} {r : Record} :
      (prop, r) ∈ s.records.toList ↔ s.records.get? prop = some r :=
    SortedMap.mem_toList_iff (SortedMap.Ordered.nodup hs)
  simp only [configs, SortedMap.values, List.map_map, List.mem_map]
  constructor
  · rintro ⟨⟨prop, r⟩, hmem, rfl⟩
    have hrules := rules?_of_record (hentry.mp hmem)
    have hprop : r.config.prop = prop := hk prop _ hrules
    exact ⟨r.rules, hprop.symm ▸ hrules, rfl⟩
  · rintro ⟨rules, hrules, rfl⟩
    obtain ⟨r, hr, rfl⟩ := record_of_rules? hrules
    exact ⟨(r.config.prop, r), hentry.mpr hr, rfl⟩

/-- The declarations are listed in the order of the ids of their properties. -/
theorem Sorted.pairwise_configs (hs : s.Sorted) (hk : s.Keyed) :
    s.configs.Pairwise fun c c' => c.prop < c'.prop := by
  have hprops : s.configs.map PropertyConfig.prop = s.records.keys := by
    simp only [configs, SortedMap.values, SortedMap.keys, List.map_map]
    refine List.map_congr_left fun entry hentry => ?_
    obtain ⟨prop, r⟩ := entry
    have hr := (SortedMap.mem_toList_iff (SortedMap.Ordered.nodup hs)).mp hentry
    exact hk prop _ (rules?_of_record hr)
  have hkeys : (s.configs.map PropertyConfig.prop).Pairwise (· < ·) := hprops ▸ hs
  exact List.pairwise_map.mp hkeys

end Store

end BenchVehicle
