import BenchVehicle.Property.Document
import BenchVehicle.Proofs.Json.Writing
import Mathlib.Data.List.Forall2
import Mathlib.Data.List.Pairwise

/-!
# Values that come back from files

A value without fractions is the same when it is written and read again. Nothing that a file may
change about its records matters: the spelling of a payload field, the order of the fields, the
absence of a field that has its default, and members that belong to no field. Nor does the layout of
the text, or the way in which its strings are escaped.
-/

namespace BenchVehicle

open Document

/-- The text of a written text is that text. -/
theorem JsonString.text?_ofText (s : String) : (ofText s).text? = some s := by
  rw [text?, ofText, if_pos rfl, String.ofList_toList]

/-- A field of a record as it is written. -/
structure RecordField where
  /-- The name that is written. -/
  name : String
  /-- The other names that are read. -/
  aliases : List String
  /-- What is written for the field. -/
  contents : Json
  /-- Whether that is what the field is without being written. -/
  isDefault : Prop

namespace RecordField

/-- The names of a field. -/
def spellings (f : RecordField) : List String := f.name :: f.aliases

/-- The members of a record that is written in full. -/
def written (fields : List RecordField) : List (String × Json) :=
  fields.map fun f => (f.name, f.contents)

/-- The members that a record may have in place of those that are written. -/
inductive Variant (fields : List RecordField) : List (String × Json) → Prop where
  /-- They may be those that are written. -/
  | written : Variant fields (written fields)
  /-- A field may go by any of its names. -/
  | renamed {before after : List (String × Json)} {contents : Json} {name name' : String}
      {f : RecordField} (hf : f ∈ fields) (hname : name ∈ f.spellings)
      (hname' : name' ∈ f.spellings) (h : Variant fields (before ++ (name, contents) :: after)) :
      Variant fields (before ++ (name', contents) :: after)
  /-- The members may have any order. -/
  | reordered {members members' : List (String × Json)} (hperm : members.Perm members')
      (h : Variant fields members) : Variant fields members'
  /-- A field that has its default may be left out. -/
  | dropped {before after : List (String × Json)} {contents : Json} {name : String}
      {f : RecordField} (hf : f ∈ fields) (hdefault : f.isDefault) (hname : name ∈ f.spellings)
      (h : Variant fields (before ++ (name, contents) :: after)) : Variant fields (before ++ after)
  /-- There may be members that belong to no field, whatever they contain. -/
  | added {before after : List (String × Json)} {name : String}
      (hname : ∀ f ∈ fields, name ∉ f.spellings) (contents : Json)
      (h : Variant fields (before ++ after)) :
      Variant fields (before ++ (name, contents) :: after)

variable {fields : List RecordField} {f : RecordField} {members : List (String × Json)}

/-! ## What the members hold for a field -/

/-- What the members of a record hold under the names of a field. -/
def valuesOf (f : RecordField) (members : List (String × Json)) : List Json :=
  (members.filter fun m => decide (m.1 ∈ f.spellings)).map Prod.snd

/-- That a field is held once, as it is written, or not at all if it has its default. -/
def HeldBy (f : RecordField) (members : List (String × Json)) : Prop :=
  f.valuesOf members = [f.contents] ∨ (f.valuesOf members = [] ∧ f.isDefault)

/-- That no name is that of two fields. -/
def Distinct (fields : List RecordField) : Prop :=
  fields.Pairwise fun f g => ∀ name ∈ f.spellings, name ∉ g.spellings

/-- A name belongs to one field only. -/
theorem Distinct.eq_of_mem (hdistinct : Distinct fields) {g : RecordField} (hf : f ∈ fields)
    (hg : g ∈ fields) {name : String} (hnameF : name ∈ f.spellings)
    (hnameG : name ∈ g.spellings) : f = g := by
  by_contra hne
  have : Std.Symm fun f g : RecordField => ∀ name ∈ f.spellings, name ∉ g.spellings :=
    ⟨fun _ _ h name hg hf => h name hf hg⟩
  exact hdistinct.forall hf hg hne name hnameF hnameG

section Values

variable {before after : List (String × Json)} {name name' : String} {contents : Json}

/-- A member under a name of a field is one of its values. -/
theorem valuesOf_insert_of_mem (h : name ∈ f.spellings) :
    f.valuesOf (before ++ (name, contents) :: after) =
      f.valuesOf before ++ contents :: f.valuesOf after := by
  simp [valuesOf, h]

/-- Other members are not. -/
theorem valuesOf_insert_of_notMem (h : name ∉ f.spellings) :
    f.valuesOf (before ++ (name, contents) :: after) = f.valuesOf (before ++ after) := by
  simp [valuesOf, h]

/-- The values of a field are found in the order of the members. -/
theorem valuesOf_append : f.valuesOf (before ++ after) = f.valuesOf before ++ f.valuesOf after := by
  simp [valuesOf]

/-- A member that changes between names of a field is a value of the same fields. -/
theorem valuesOf_rename (h : name ∈ f.spellings ↔ name' ∈ f.spellings) :
    f.valuesOf (before ++ (name', contents) :: after) =
      f.valuesOf (before ++ (name, contents) :: after) := by
  by_cases hname : name ∈ f.spellings
  · rw [valuesOf_insert_of_mem hname, valuesOf_insert_of_mem (h.mp hname)]
  · rw [valuesOf_insert_of_notMem hname, valuesOf_insert_of_notMem (mt h.mpr hname)]

/-- A field that is held once is not held where its only member is gone. -/
theorem HeldBy.dropped (h : f.HeldBy (before ++ (name, contents) :: after))
    (hdefault : f.isDefault) (hname : name ∈ f.spellings) : f.HeldBy (before ++ after) := by
  refine .inr ⟨?_, hdefault⟩
  rw [HeldBy, valuesOf_insert_of_mem hname] at h
  rw [valuesOf_append]
  obtain h | ⟨h, -⟩ := h
  · have hlength := congrArg List.length h
    simp only [List.length_append, List.length_cons, List.length_nil] at hlength
    exact List.eq_nil_of_length_eq_zero (by rw [List.length_append]; omega)
  · exact absurd h (by simp)

/-- The order of members does not matter for whether a field is held. -/
theorem HeldBy.of_perm {members' : List (String × Json)} (h : f.HeldBy members)
    (hperm : members.Perm members') : f.HeldBy members' := by
  have hvalues : (f.valuesOf members).Perm (f.valuesOf members') := (hperm.filter _).map _
  obtain h | ⟨h, hdefault⟩ := h
  · rw [h] at hvalues
    exact .inl (List.perm_singleton.mp hvalues.symm)
  · rw [h] at hvalues
    exact .inr ⟨hvalues.symm.eq_nil, hdefault⟩

end Values

/-- A record that is written in full holds each of its fields. -/
theorem heldBy_written (hdistinct : Distinct fields) (hf : f ∈ fields) :
    f.HeldBy (written fields) := by
  refine .inl ?_
  obtain ⟨before, after, rfl⟩ := List.append_of_mem hf
  -- no other field goes by a name of this one
  have hother : ∀ g ∈ before ++ after, g.name ∉ f.spellings := by
    intro g hg hname
    obtain ⟨-, hafter, hbetween⟩ := List.pairwise_append.mp hdistinct
    obtain hg | hg := List.mem_append.mp hg
    · exact hbetween g hg f List.mem_cons_self g.name List.mem_cons_self hname
    · exact (List.pairwise_cons.mp hafter).1 g hg g.name hname List.mem_cons_self
  have hnone : ∀ gs : List RecordField, (∀ g ∈ gs, g ∈ before ++ after) →
      f.valuesOf (written gs) = [] := by
    intro gs hgs
    simpa [valuesOf, written] using fun g hg => hother g (hgs g hg)
  have hsplit : written (before ++ f :: after) =
      written before ++ (f.name, f.contents) :: written after := by
    simp [written]
  rw [hsplit, valuesOf_insert_of_mem List.mem_cons_self,
    hnone before fun g hg => List.mem_append_left _ hg,
    hnone after fun g hg => List.mem_append_right _ hg]
  rfl

/-- Each change of a record keeps what it holds for each of its fields. -/
theorem Variant.heldBy (hdistinct : Distinct fields) (h : Variant fields members) :
    ∀ f ∈ fields, f.HeldBy members := by
  induction h with
  | written => exact fun f hf => heldBy_written hdistinct hf
  | @renamed before after contents name name' g hg hname hname' _ ih =>
    intro f hf
    have hsame : name ∈ f.spellings ↔ name' ∈ f.spellings := by
      constructor
      · intro hnameF
        exact hdistinct.eq_of_mem hg hf hname hnameF ▸ hname'
      · intro hnameF
        exact hdistinct.eq_of_mem hg hf hname' hnameF ▸ hname
    rw [HeldBy, valuesOf_rename hsame]
    exact ih f hf
  | reordered hperm _ ih => exact fun f hf => (ih f hf).of_perm hperm
  | @dropped before after contents name g hg hdefault hname _ ih =>
    intro f hf
    by_cases hnameF : name ∈ f.spellings
    · obtain rfl := hdistinct.eq_of_mem hg hf hname hnameF
      exact (ih g hg).dropped hdefault hname
    · rw [HeldBy, ← valuesOf_insert_of_notMem hnameF]
      exact ih f hf
  | added hname contents _ ih =>
    intro f hf
    rw [HeldBy, valuesOf_insert_of_notMem (hname f hf)]
    exact ih f hf

/-! ## What is read for a field -/

/-- What may be read for a field: what is written, or nothing if that is the default. -/
def Answered (f : RecordField) (d : Option Json) : Prop :=
  d = some f.contents ∨ (d = none ∧ f.isDefault)

/-- A field that is held is read as what is written, or as nothing where it has its default. -/
theorem member?_of_heldBy (h : f.HeldBy members) :
    ∃ d, member? f.spellings (members.map fun m => (some m.1, m.2)) = some d ∧ f.Answered d := by
  have hfilter : ((members.map fun m => (some m.1, m.2)).filter fun m =>
      f.spellings.any fun s => m.1 = some s) =
      (members.filter fun m => decide (m.1 ∈ f.spellings)).map fun m => (some m.1, m.2) := by
    have hsame : ∀ m : String × Json, (f.spellings.any fun s => some m.1 = some s) =
        decide (m.1 ∈ f.spellings) := by
      intro m
      simp [List.any_eq]
    rw [List.filter_map]
    exact congrArg _ (List.filter_congr fun m _ => hsame m)
  have hvalues : f.valuesOf members = (((members.map fun m => (some m.1, m.2)).filter fun m =>
      f.spellings.any fun s => m.1 = some s)).map Prod.snd := by
    rw [hfilter, List.map_map]
    rfl
  unfold member?
  rw [HeldBy, hvalues] at h
  obtain h | ⟨h, hdefault⟩ := h
  · obtain ⟨m, hm, hcontents⟩ := List.map_eq_singleton_iff.mp h
    rw [hm]
    exact ⟨some m.2, rfl, .inl (congrArg some hcontents)⟩
  · rw [List.map_eq_nil_iff.mp h]
    exact ⟨none, rfl, .inr ⟨rfl, hdefault⟩⟩

/-- A record is read whichever of its variants it is. -/
theorem fields?_of_variant (hdistinct : Distinct fields) (h : Variant fields members) :
    ∃ ds, fields? (fields.map spellings) (Json.ofMembers members) = some ds ∧
      List.Forall₂ Answered fields ds := by
  have hmembers : members? (Json.ofMembers members) =
      some (members.map fun m => (some m.1, m.2)) := by
    simp [members?, Json.ofMembers, JsonString.text?_ofText]
  have hnamed : (members.map fun m => (some m.1, m.2)).any (fun m => m.1.isNone) = false := by
    simp
  unfold fields?
  rw [hmembers]
  dsimp only
  rw [hnamed, if_neg Bool.false_ne_true]
  have hheld := h.heldBy hdistinct
  clear hdistinct h hmembers hnamed
  induction fields with
  | nil => exact ⟨[], rfl, .nil⟩
  | cons f fields ih =>
    obtain ⟨d, hread, hanswered⟩ := member?_of_heldBy (hheld f List.mem_cons_self)
    obtain ⟨ds, hreads, hall⟩ := ih fun g hg => hheld g (List.mem_cons_of_mem _ hg)
    refine ⟨d :: ds, ?_, .cons hanswered hall⟩
    rw [List.map_cons, List.mapM_cons, hread, hreads]
    rfl

/-- What is read for a field is what was written, or its default. -/
theorem orElse_of_answered {α : Type} {read : Json → Option α} {default x : α} {d : Option Json}
    (h : f.Answered d) (hread : read f.contents = some x) (hdefault : f.isDefault → x = default) :
    orElse read default d = some x := by
  obtain rfl | ⟨rfl, h⟩ := h
  · exact hread
  · rw [hdefault h]
    rfl

end RecordField

/-! ## Single fields -/

namespace Json

/-- Every integer of the 64-bit ranges is read as it is written. -/
theorem integer?_ofInt {i : Int} (h : Int64.minValue.toInt ≤ i ∧ i < UInt64.size) :
    integer? (ofInt i) = some i := by
  have hzero : ¬ ((Numeral.ofInt i).negative = true ∧ i = 0) := by
    rintro ⟨hnegative, rfl⟩
    cases hnegative
  change integerOf? (Numeral.ofInt i) = some i
  unfold integerOf?
  rw [Numeral.wholeValue_ofInt]
  have hwhole : (Numeral.ofInt i).isWhole = true := rfl
  simp only [hwhole, Bool.not_true, Bool.false_or, Bool.and_eq_true, decide_eq_true_eq]
  rw [if_neg hzero, if_pos h]

/-- A 32-bit integer is read as it is written. -/
theorem int32?_ofInt (n : Int32) : int32? (ofInt n.toInt) = some n := by
  have hrange : Int32.minValue.toInt ≤ n.toInt ∧ n.toInt ≤ Int32.maxValue.toInt :=
    ⟨n.minValue_le_toInt, n.toInt_le⟩
  have hwide : Int64.minValue.toInt ≤ Int32.minValue.toInt ∧
      Int32.maxValue.toInt < UInt64.size := by decide
  rw [int32?, integer?_ofInt (by omega), Option.bind_some, if_pos hrange, Int32.ofInt_toInt]

/-- A 64-bit integer is read as it is written. -/
theorem int64?_ofInt (n : Int64) : int64? (ofInt n.toInt) = some n := by
  have hrange : Int64.minValue.toInt ≤ n.toInt ∧ n.toInt ≤ Int64.maxValue.toInt :=
    ⟨n.minValue_le_toInt, n.toInt_le⟩
  have hwide : Int64.maxValue.toInt < UInt64.size := by decide
  rw [int64?, integer?_ofInt (by omega), Option.bind_some, if_pos hrange, Int64.ofInt_toInt]

/-- A byte is read as it is written. -/
theorem byte?_ofInt (b : UInt8) : byte? (ofInt b.toNat) = some b := by
  have hrange : 0 ≤ (b.toNat : Int) ∧ (b.toNat : Int) < 256 := by
    have := b.toNat_lt
    omega
  have hwide : Int64.minValue.toInt ≤ 0 ∧ (256 : Int) < UInt64.size := by decide
  rw [byte?, integer?_ofInt (by omega), Option.bind_some, if_pos hrange, Int.toNat_natCast,
    UInt8.ofNat_toNat]

/-- A text is read as it is written. -/
theorem text?_ofText (s : String) : text? (ofText s) = some s := JsonString.text?_ofText s

/-- A list is read as it is written if its items are. -/
theorem listOf_array {α : Type} {read : Json → Option α} {write : α → Json}
    (h : ∀ x, read (write x) = some x) (xs : List α) :
    listOf read (array (xs.map write)) = some xs := by
  change (xs.map write).mapM read = some xs
  induction xs with
  | nil => rfl
  | cons x xs ih =>
    rw [List.map_cons, List.mapM_cons, h, ih]
    rfl

end Json

/-! ## Payloads and values -/

namespace Payload

/-- The fields of a payload. -/
def fields (p : Payload) : List RecordField := [
  { name := "int32Values", aliases := ["int32_values"]
    contents := .array (p.int32s.map fun n => .ofInt n.toInt), isDefault := p.int32s = [] },
  { name := "int64Values", aliases := ["int64_values"]
    contents := .array (p.int64s.map fun n => .ofInt n.toInt), isDefault := p.int64s = [] },
  { name := "floatValues", aliases := ["float_values"]
    contents := .array (p.floats.map .ofSingle), isDefault := p.floats = [] },
  { name := "stringValue", aliases := ["string_value"]
    contents := .ofText p.string, isDefault := p.string = "" },
  { name := "byteValues", aliases := ["byte_values"]
    contents := .array (p.bytes.map fun b => .ofInt b.toNat), isDefault := p.bytes = [] }]

/-- A payload without fractions is read from each of its variants. -/
theorem ofDocument?_of_variant {p : Payload} (hfloats : p.floats = [])
    {members : List (String × Json)} (h : RecordField.Variant p.fields members) :
    ofDocument? (Json.ofMembers members) = some p := by
  have hdistinct : RecordField.Distinct p.fields := by
    simp [RecordField.Distinct, fields, RecordField.spellings]
  obtain ⟨ds, hfields, hanswered⟩ := RecordField.fields?_of_variant hdistinct h
  obtain _ | ⟨h₀, _ | ⟨h₁, _ | ⟨h₂, _ | ⟨h₃, _ | ⟨h₄, _ | _⟩⟩⟩⟩⟩ := hanswered
  have hint32s := RecordField.orElse_of_answered h₀
    (Json.listOf_array Json.int32?_ofInt p.int32s) id
  have hint64s := RecordField.orElse_of_answered h₁
    (Json.listOf_array Json.int64?_ofInt p.int64s) id
  have hnone : listOf single? (Json.array (p.floats.map .ofSingle)) = some p.floats := by
    rw [hfloats]
    rfl
  have hsingles := RecordField.orElse_of_answered h₂ hnone id
  have hstring := RecordField.orElse_of_answered h₃ (Json.text?_ofText p.string) id
  have hbytes := RecordField.orElse_of_answered h₄
    (Json.listOf_array Json.byte?_ofInt p.bytes) id
  unfold ofDocument?
  rw [show fieldNames = p.fields.map RecordField.spellings from rfl, hfields]
  simp only [Option.bind_eq_bind, Option.bind_some, field, List.getElem?_cons_zero,
    List.getElem?_cons_succ, Option.join_some, hint32s, hint64s, hsingles, hstring, hbytes]
  rfl

/-- A payload without fractions is written as a text of its JSON. -/
theorem spells_toJson {p : Payload} (hfloats : p.floats = []) :
    Json.Spells p.toJson p.toJson.write := by
  refine Json.spells_ofMembers _ fun m hm => ?_
  simp only [List.mem_cons, List.not_mem_nil, or_false] at hm
  obtain rfl | rfl | rfl | rfl | rfl := hm
  · exact Json.spells_ofInts _ _
  · exact Json.spells_ofInts _ _
  · rw [hfloats]
    exact Json.spells_array [] nofun
  · exact Json.spells_ofText _
  · exact Json.spells_ofInts _ _

end Payload

namespace PropertyValue

variable {v : PropertyValue}

/-- The fields of a value, of which the payload may be written in more than one way. -/
def fields (v : PropertyValue) (payload : Json) : List RecordField := [
  { name := "prop", aliases := [], contents := .ofInt v.prop.toInt, isDefault := v.prop = 0 },
  { name := "areaId", aliases := [], contents := .ofInt v.area.toInt, isDefault := v.area = 0 },
  { name := "timestamp", aliases := []
    contents := .ofInt v.timestamp.toInt, isDefault := v.timestamp = 0 },
  { name := "status", aliases := []
    contents := .ofText v.status.name, isDefault := v.status = .available },
  { name := "value", aliases := [], contents := payload, isDefault := v.payload = .empty }]

/-- A status is read by its name. -/
theorem choice?_name (status : PropertyStatus) :
    choice? PropertyStatus.ofName? (Json.ofText status.name) = some status := by
  rw [choice?, Json.text?_ofText]
  cases status <;> decide

/-- A value is read from each of its variants if its payload is. -/
theorem ofDocument?_of_variant {payload : Json}
    (hpayload : Payload.ofDocument? payload = some v.payload) {members : List (String × Json)}
    (h : RecordField.Variant (v.fields payload) members) :
    ofDocument? (Json.ofMembers members) = some v := by
  have hdistinct : RecordField.Distinct (v.fields payload) := by
    simp [RecordField.Distinct, fields, RecordField.spellings]
  obtain ⟨ds, hfields, hanswered⟩ := RecordField.fields?_of_variant hdistinct h
  obtain _ | ⟨h₀, _ | ⟨h₁, _ | ⟨h₂, _ | ⟨h₃, _ | ⟨h₄, _ | _⟩⟩⟩⟩⟩ := hanswered
  have hprop := RecordField.orElse_of_answered h₀ (Json.int32?_ofInt v.prop) id
  have harea := RecordField.orElse_of_answered h₁ (Json.int32?_ofInt v.area) id
  have htimestamp := RecordField.orElse_of_answered h₂ (Json.int64?_ofInt v.timestamp) id
  have hstatus := RecordField.orElse_of_answered h₃ (choice?_name v.status) id
  have hvalue := RecordField.orElse_of_answered h₄ hpayload id
  unfold ofDocument?
  rw [show fieldNames = (v.fields payload).map RecordField.spellings from rfl, hfields]
  simp only [Option.bind_eq_bind, Option.bind_some, field, List.getElem?_cons_zero,
    List.getElem?_cons_succ, Option.join_some, hprop, harea, htimestamp, hstatus, hvalue]
  rfl

/-- A value without fractions is written as a text of its JSON. -/
theorem padded_renderJson (hfloats : v.payload.floats = []) :
    Json.Padded v.toJson v.renderJson.toList := by
  have hspells : Json.Spells v.toJson v.toJson.write := by
    refine Json.spells_ofMembers _ fun m hm => ?_
    simp only [List.mem_cons, List.not_mem_nil, or_false] at hm
    obtain rfl | rfl | rfl | rfl | rfl := hm
    · exact Json.spells_ofInt _
    · exact Json.spells_ofInt _
    · exact Json.spells_ofInt _
    · exact Json.spells_ofText _
    · exact Payload.spells_toJson hfloats
  rw [renderJson, Json.render, String.toList_ofList]
  exact Json.padded_of_spells hspells

/-- A value without fractions is read as it was from the text that is written for it, and from every
text of a variant of what is written, in the payload, in the value itself or in both. -/
theorem json_roundTrip (v : PropertyValue) (hfloats : v.payload.floats = []) :
    parseJson? v.renderJson = some v ∧
    v.toJson = .ofMembers (RecordField.written (v.fields v.payload.toJson)) ∧
    v.payload.toJson = .ofMembers (RecordField.written v.payload.fields) ∧
    ∀ (payload members : List (String × Json)) (text : String),
      RecordField.Variant v.payload.fields payload →
      RecordField.Variant (v.fields (.ofMembers payload)) members →
      Json.Padded (.ofMembers members) text.toList → parseJson? text = some v := by
  have hread : ∀ (payload members : List (String × Json)) (text : String),
      RecordField.Variant v.payload.fields payload →
      RecordField.Variant (v.fields (.ofMembers payload)) members →
      Json.Padded (.ofMembers members) text.toList → parseJson? text = some v := by
    intro payload members text hpayload hmembers htext
    have hparse := Json.parse?_of_padded htext
    rw [String.ofList_toList] at hparse
    rw [parseJson?, hparse, Option.bind_some]
    exact ofDocument?_of_variant (Payload.ofDocument?_of_variant hfloats hpayload) hmembers
  exact ⟨hread _ _ _ .written .written (padded_renderJson hfloats), rfl, rfl, hread⟩

/-- A payload with a field under its other name, without one that has its default, with a member of
its own and with its members in another order. -/
theorem json_roundTrip_of_edited :
    let payload : List (String × Json) := [
      ("byte_values", .array [.ofInt 255]), ("stringValue", .ofText "a\"\n"),
      ("floatValues", .array []), ("int32Values", .array []), ("note", .ofText "old")]
    let members : List (String × Json) := [
      ("prop", .ofInt 0), ("areaId", .ofInt 49), ("timestamp", .ofInt 0),
      ("status", .ofText "AVAILABLE"), ("value", .ofMembers payload)]
    parseJson? (String.ofList (' ' :: (Json.ofMembers members).write)) =
      some { area := 49, payload := { string := "a\"\n", bytes := [255] } } := by
  intro payload members
  let v : PropertyValue := { area := 49, payload := { string := "a\"\n", bytes := [255] } }
  let int32s : String × Json := ("int32Values", .array [])
  let singles : String × Json := ("floatValues", .array [])
  let text : String × Json := ("stringValue", .ofText "a\"\n")
  let bytes : Json := .array [.ofInt 255]
  have hwritten : RecordField.Variant v.payload.fields
      ([int32s] ++ ("int64Values", .array []) :: [singles, text, ("byteValues", bytes)]) := .written
  have hdropped : RecordField.Variant v.payload.fields
      ([int32s] ++ [singles, text, ("byteValues", bytes)]) :=
    .dropped (.tail _ (.head _)) rfl List.mem_cons_self hwritten
  have hlast : RecordField.Variant v.payload.fields
      ([int32s, singles, text] ++ ("byteValues", bytes) :: []) := hdropped
  have hrenamed : RecordField.Variant v.payload.fields
      ([int32s, singles, text] ++ ("byte_values", bytes) :: []) :=
    .renamed (.tail _ (.tail _ (.tail _ (.tail _ (.head _))))) List.mem_cons_self
      (List.mem_cons_of_mem _ List.mem_cons_self) hlast
  have hfirst : RecordField.Variant v.payload.fields
      ([] ++ [int32s, singles, text, ("byte_values", bytes)]) := hrenamed
  have hadded : RecordField.Variant v.payload.fields
      ([] ++ ("note", .ofText "old") :: [int32s, singles, text, ("byte_values", bytes)]) :=
    .added (by simp [v, Payload.fields, RecordField.spellings]) _ hfirst
  have hpayload : RecordField.Variant v.payload.fields payload :=
    .reordered (List.reverse_perm _).symm hadded
  have htext : Json.Padded (.ofMembers members)
      (String.ofList (' ' :: (Json.ofMembers members).write)).toList := by
    have hspells : Json.Spells (.ofMembers members) (Json.ofMembers members).write := by
      refine Json.spells_ofMembers _ ?_
      simp [members, payload, Json.spells_ofInt, Json.spells_ofText, Json.spells_array,
        Json.spells_ofMembers]
    have hspace : Json.Blank [' '] := by simp [Json.Blank]
    have hnone : Json.Blank [] := nofun
    rw [String.toList_ofList]
    simpa using Json.Padded.padded hspace hspells hnone
  exact (json_roundTrip v rfl).2.2.2 payload members _ hpayload .written htext

end PropertyValue

end BenchVehicle
