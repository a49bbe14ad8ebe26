import BenchVehicle.Proofs.Command.ByteStrings
import Mathlib.Data.List.TakeWhile

/-!
# The grammar of values

The commands that take a value name a property and then options, each with the tokens up to the
next option. Here the grammar of these commands is stated without the reader: which texts are integers
and byte strings, which lists of groups are allowed, and which value they describe. The reader takes
the token lists of the allowed groups and no others, and gives the value described. An option tells of
one field of the value only, so the order of the groups does not matter.

Only how fractions are written is left to their reader. Byte strings are decoded by any decoder that
does what is documented.
-/

namespace BenchVehicle

/-! ## What is read -/

namespace Reading

variable {α β : Type}

/-- A label changes what is refused, not what is read. -/
theorem label_eq_ok {name : String} {r : Reading α} {a : α} : r.label name = .ok a ↔ r = .ok a := by
  cases r with
  | error e => cases e <;> exact iff_of_false nofun nofun
  | ok a => rfl

/-- Several texts are read if each of them is. -/
theorem mapM_eq_ok {f : α → Reading β} {as : List α} {bs : List β} :
    as.mapM f = .ok bs ↔ List.Forall₂ (fun a b => f a = .ok b) as bs := by
  induction as generalizing bs with
  | nil =>
    have hnil : [].mapM f = .ok [] := rfl
    rw [hnil, Except.ok.injEq, List.forall₂_nil_left_iff, eq_comm]
  | cons a as ih =>
    rw [List.mapM_cons, bind_eq_ok, List.forall₂_cons_left_iff]
    simp only [bind_eq_ok, ih, pure, Except.pure, Except.ok.injEq, ← exists_and_left]
    constructor
    · rintro ⟨b, bs', hb, hbs, rfl⟩
      exact ⟨b, bs', hb, hbs, rfl⟩
    · rintro ⟨b, bs', hb, hbs, rfl⟩
      exact ⟨b, bs', hb, hbs, rfl⟩

end Reading

/-! ## Options and the fields they tell of -/

namespace ValueOption

/-- What an option can say. -/
abbrev Field : ValueOption → Type
  | int32s => List Int32
  | int64s => List Int64
  | floats => List Single
  | string => String
  | bytes => List UInt8
  | area => Int32
  | timestamp => Int64

/-- What a value has where an option tells of it. -/
def field : (o : ValueOption) → PropertyValue → o.Field
  | int32s, v => v.payload.int32s
  | int64s, v => v.payload.int64s
  | floats, v => v.payload.floats
  | string, v => v.payload.string
  | bytes, v => v.payload.bytes
  | area, v => v.area
  | timestamp, v => v.timestamp

/-- A value with something else there. -/
def withField : (o : ValueOption) → o.Field → PropertyValue → PropertyValue
  | int32s, x, v => { v with payload := { v.payload with int32s := x } }
  | int64s, x, v => { v with payload := { v.payload with int64s := x } }
  | floats, x, v => { v with payload := { v.payload with floats := x } }
  | string, x, v => { v with payload := { v.payload with string := x } }
  | bytes, x, v => { v with payload := { v.payload with bytes := x } }
  | area, x, v => { v with area := x }
  | timestamp, x, v => { v with timestamp := x }

/-- What a value has there if nothing is said. -/
def unsaid : (o : ValueOption) → o.Field
  | int32s => []
  | int64s => []
  | floats => []
  | string => ""
  | bytes => []
  | area => 0
  | timestamp => 0

/-- A field that was set has what it was set to. -/
theorem field_withField (o : ValueOption) (x : o.Field) (v : PropertyValue) :
    o.field (o.withField x v) = x := by cases o <;> rfl

/-- The other fields stay. -/
theorem field_withField_of_ne {o p : ValueOption} (h : p ≠ o) (x : o.Field) (v : PropertyValue) :
    p.field (o.withField x v) = p.field v := by
  cases o <;> cases p <;> first | rfl | exact absurd rfl h

/-- No option tells of the property. -/
theorem prop_withField (o : ValueOption) (x : o.Field) (v : PropertyValue) :
    (o.withField x v).prop = v.prop := by cases o <;> rfl

/-- No option tells of the status. -/
theorem status_withField (o : ValueOption) (x : o.Field) (v : PropertyValue) :
    (o.withField x v).status = v.status := by cases o <;> rfl

/-- A value of which nothing was said has what is unsaid in every field. -/
theorem field_ofKey (o : ValueOption) (id : Int32) :
    o.field (.ofKey id 0) = o.unsaid := by cases o <;> rfl

/-- Options tell of all of a value but its property and status. -/
theorem eq_of_field_eq {v w : PropertyValue} (hprop : v.prop = w.prop)
    (hstatus : v.status = w.status) (h : ∀ o : ValueOption, o.field v = o.field w) : v = w := by
  obtain ⟨prop, area, timestamp, status, ⟨int32s, int64s, floats, string, bytes⟩⟩ := v
  obtain ⟨prop', area', timestamp', status', ⟨int32s', int64s', floats', string', bytes'⟩⟩ := w
  obtain rfl : prop = prop' := hprop
  obtain rfl : status = status' := hstatus
  obtain rfl : int32s = int32s' := h .int32s
  obtain rfl : int64s = int64s' := h .int64s
  obtain rfl : floats = floats' := h .floats
  obtain rfl : string = string' := h .string
  obtain rfl : bytes = bytes' := h .bytes
  obtain rfl : area = area' := h .area
  obtain rfl : timestamp = timestamp' := h .timestamp
  rfl

/-! ## The arguments of an option -/

section

variable {α : Type} (means : String → α → Prop) (arguments : List String)

/-- That there are arguments, and what they say, one by one. -/
def Many (xs : List α) : Prop := arguments ≠ [] ∧ List.Forall₂ means arguments xs

/-- That there is one argument, and what it says. -/
def One (x : α) : Prop := ∃ argument, arguments = [argument] ∧ means argument x

end

/-- That an option may have the arguments, and what they say. -/
def Accepts : (o : ValueOption) → List String → o.Field → Prop
  | int32s => Many IntegerText.IsInt32
  | int64s => Many IntegerText.IsInt64
  | floats => Many fun argument x => Reading.fraction argument = .ok x
  | string => One Eq
  | bytes => One IsByteString
  | area => One IntegerText.IsInt32
  | timestamp => One IntegerText.IsInt64

section

variable {α : Type} {read : String → Reading α} {means : String → α → Prop}
  {arguments : List String} {w : PropertyValue}

/-- An option that takes arguments sets what they say. -/
theorem many_eq_ok (hread : ∀ {argument x}, read argument = .ok x ↔ means argument x)
    (o : ValueOption) (set : List α → PropertyValue) :
    (do let xs ← (← o.some? arguments).mapM read; return set xs) = Except.ok w ↔
      ∃ xs, Many means arguments xs ∧ w = set xs := by
  have hsome (found : List String) :
      o.some? arguments = .ok found ↔ arguments ≠ [] ∧ found = arguments := by
    cases arguments with
    | nil => exact iff_of_false nofun fun h => h.1 rfl
    | cons a as => simp [some?, eq_comm]
  simp only [bind_eq_ok, hsome, Reading.mapM_eq_ok, hread, Many]
  constructor
  · rintro ⟨_, ⟨hne, rfl⟩, xs, hxs, hw⟩
    cases hw
    exact ⟨xs, ⟨hne, hxs⟩, rfl⟩
  · rintro ⟨xs, ⟨hne, hxs⟩, rfl⟩
    exact ⟨_, ⟨hne, rfl⟩, xs, hxs, rfl⟩

/-- An option that takes one argument sets what it says. -/
theorem one_eq_ok (hread : ∀ {argument x}, read argument = .ok x ↔ means argument x)
    (o : ValueOption) (set : α → PropertyValue) :
    (do let x ← read (← o.one? arguments); return set x) = Except.ok w ↔
      ∃ x, One means arguments x ∧ w = set x := by
  have hone (argument : String) :
      o.one? arguments = .ok argument ↔ arguments = [argument] := by
    unfold one?
    split
    · next a => simp
    · next hne => exact iff_of_false nofun fun h => hne argument h
  simp only [bind_eq_ok, hone, hread, One]
  constructor
  · rintro ⟨argument, harguments, x, hx, hw⟩
    cases hw
    exact ⟨x, ⟨argument, harguments, hx⟩, rfl⟩
  · rintro ⟨x, ⟨argument, harguments, hx⟩, rfl⟩
    exact ⟨argument, harguments, x, hx, rfl⟩

end

variable {decode : HexDecoder}

/-- What an option makes of a value: it changes its own field to what its arguments say. -/
theorem apply_eq_ok (hdecode : decode.Documented) {o : ValueOption} {arguments : List String}
    {v w : PropertyValue} :
    o.apply decode arguments v = .ok w ↔ ∃ x, o.Accepts arguments x ∧ w = o.withField x v := by
  cases o with
  | int32s => exact many_eq_ok IntegerText.int32_iff .int32s fun xs => withField .int32s xs v
  | int64s => exact many_eq_ok IntegerText.int64_iff .int64s fun xs => withField .int64s xs v
  | floats => exact many_eq_ok .rfl .floats fun xs => withField .floats xs v
  | string =>
    have hread {argument x : String} : (.ok argument : Reading String) = .ok x ↔ argument = x := by
      rw [Except.ok.injEq]
    exact one_eq_ok hread .string fun x => withField .string x v
  | bytes => exact one_eq_ok (byteString_eq_ok hdecode) .bytes fun x => withField .bytes x v
  | area =>
    exact one_eq_ok (Reading.label_eq_ok.trans IntegerText.int32_iff) .area
      fun x => withField .area x v
  | timestamp =>
    exact one_eq_ok (Reading.label_eq_ok.trans IntegerText.int64_iff) .timestamp
      fun x => withField .timestamp x v

/-- A token is read as the option whose name it is in lower case. -/
theorem ofToken?_eq_some {token : String} {o : ValueOption} :
    ofToken? token = some o ↔ lowerAscii token = o.name := by
  constructor
  · intro h
    have hname := List.find?_some (p := fun o : ValueOption => o.name = lowerAscii token) h
    exact (of_decide_eq_true hname).symm
  · intro h
    unfold ofToken?
    rw [h]
    cases o <;> decide

end ValueOption

/-! ## Groups -/

namespace OptionGroup

/-- The tokens of groups. -/
def written (groups : List OptionGroup) : List String :=
  groups.flatMap fun g => g.token :: g.arguments

/-- That a group is one of an option, whose name is compared in lower case. -/
def Names (g : OptionGroup) (o : ValueOption) : Prop := lowerAscii g.token = o.name

/-- The grammar of the groups behind a property. -/
structure Grammatical (groups : List OptionGroup) : Prop where
  /-- Every group is one of an option. -/
  named : ∀ g ∈ groups, ∃ o, g.Names o
  /-- A group ends where the next option is. -/
  delimited : ∀ g ∈ groups, ∀ argument ∈ g.arguments, ∀ o : ValueOption,
    lowerAscii argument ≠ o.name
  /-- No option occurs twice. -/
  once : groups.Pairwise fun g h => ∀ o, g.Names o → ¬ h.Names o
  /-- Every option has arguments that it may have. -/
  accepted : ∀ g ∈ groups, ∀ o, g.Names o → ∃ x, o.Accepts g.arguments x

/-- That groups behind a property describe a value. -/
structure Describe (id : Int32) (groups : List OptionGroup) (v : PropertyValue) : Prop where
  /-- It is a value of the property. -/
  prop : v.prop = id
  /-- It can be trusted. -/
  status : v.status = .available
  /-- It has what the options say. -/
  said : ∀ g ∈ groups, ∀ o, g.Names o → o.Accepts g.arguments (o.field v)
  /-- Of the rest it has nothing. -/
  unsaid : ∀ o : ValueOption, (∀ g ∈ groups, ¬ g.Names o) → o.field v = o.unsaid

/-! ## Splitting -/

/-- A token is an option if it is a name of one, in either case. -/
theorem isOption_iff {token : String} :
    ValueOption.isOption token = true ↔ ∃ o : ValueOption, lowerAscii token = o.name := by
  rw [ValueOption.isOption, Option.isSome_iff_exists]
  exact exists_congr fun o => ValueOption.ofToken?_eq_some

/-- Nothing is lost when tokens are split. -/
theorem written_split (tokens : List String) : written (split tokens) = tokens := by
  induction tokens using split.induct with
  | case1 => rw [split, written, List.flatMap_nil]
  | case2 token rest ih =>
    rw [split, written, List.flatMap_cons, ← written, ih, List.cons_append,
      List.takeWhile_append_dropWhile]

/-- No argument names an option. -/
theorem delimited_split {tokens : List String} {g : OptionGroup} (hg : g ∈ split tokens)
    {argument : String} (h : argument ∈ g.arguments) (o : ValueOption) :
    lowerAscii argument ≠ o.name := by
  induction tokens using split.induct with
  | case1 => simp [split] at hg
  | case2 token rest ih =>
    rw [split, List.mem_cons] at hg
    rcases hg with rfl | hg
    · intro hname
      have hnot := List.mem_takeWhile_imp h
      rw [isOption_iff.mpr ⟨o, hname⟩] at hnot
      cases hnot
    · exact ih hg

/-- Groups that are delimited are found again. -/
theorem split_written {groups : List OptionGroup} (hnamed : ∀ g ∈ groups, ∃ o, g.Names o)
    (hdelimited : ∀ g ∈ groups, ∀ argument ∈ g.arguments, ∀ o : ValueOption,
      lowerAscii argument ≠ o.name) : split (written groups) = groups := by
  induction groups with
  | nil => rw [written, List.flatMap_nil, split]
  | cons g rest ih =>
    rw [List.forall_mem_cons] at hnamed hdelimited
    have hall : ∀ t ∈ g.arguments, (!ValueOption.isOption t) = true := by
      intro t ht
      rw [Bool.not_eq_true', ← Bool.not_eq_true, isOption_iff, not_exists]
      exact hdelimited.1 t ht
    -- the next group starts with an option
    have hnext : (written rest).takeWhile (fun t => !ValueOption.isOption t) = [] ∧
        (written rest).dropWhile (fun t => !ValueOption.isOption t) = written rest := by
      cases rest with
      | nil => exact ⟨rfl, rfl⟩
      | cons h rest =>
        have hoption := isOption_iff.mpr (hnamed.2 h List.mem_cons_self)
        simp [written, hoption]
    rw [written, List.flatMap_cons, ← written, List.cons_append, split,
      List.takeWhile_append_of_pos hall, List.dropWhile_append_of_pos hall, hnext.1, hnext.2,
      List.append_nil, ih hnamed.2 hdelimited.2]

/-! ## Applying groups -/

variable {decode : HexDecoder}

/-- An option has one name, so a group is one of one option. -/
theorem Names.unique {g : OptionGroup} {o p : ValueOption} (ho : g.Names o) (hp : g.Names p) :
    o = p := by
  have hread := ValueOption.ofToken?_eq_some.mpr ho
  rw [ValueOption.ofToken?_eq_some.mpr hp] at hread
  exact (Option.some.inj hread).symm

/-- That groups take one value to another, where some options have been seen. -/
structure Take (seen : List ValueOption) (groups : List OptionGroup) (v w : PropertyValue) :
    Prop where
  /-- Every group is one of an option that has not been seen. -/
  named : ∀ g ∈ groups, ∃ o, g.Names o ∧ o ∉ seen
  /-- No option occurs twice. -/
  once : groups.Pairwise fun g h => ∀ o, g.Names o → ¬ h.Names o
  /-- The value after them has what they say. -/
  said : ∀ g ∈ groups, ∀ o, g.Names o → o.Accepts g.arguments (o.field w)
  /-- The rest stays. -/
  rest : ∀ o : ValueOption, (∀ g ∈ groups, ¬ g.Names o) → o.field w = o.field v
  /-- The property stays. -/
  prop : w.prop = v.prop
  /-- The status stays. -/
  status : w.status = v.status

/-- A group is applied if its option has not been seen and takes its arguments. -/
theorem applyAll_cons_eq_ok (hdecode : decode.Documented) {seen : List ValueOption}
    {g : OptionGroup} {rest : List OptionGroup} {v w : PropertyValue} :
    applyAll decode seen v (g :: rest) = .ok w ↔
      ∃ o x, g.Names o ∧ o ∉ seen ∧ o.Accepts g.arguments x ∧
        applyAll decode (o :: seen) (o.withField x v) rest = .ok w := by
  rw [applyAll]
  cases ho : ValueOption.ofToken? g.token with
  | none =>
    refine iff_of_false nofun ?_
    rintro ⟨o, x, hname, -⟩
    rw [ValueOption.ofToken?_eq_some.mpr hname] at ho
    cases ho
  | some o =>
    have hname : g.Names o := ValueOption.ofToken?_eq_some.mp ho
    dsimp only
    split
    · next hseen =>
      refine iff_of_false nofun ?_
      rintro ⟨p, x, hp, hnew, -⟩
      rw [hp.unique hname] at hnew
      exact hnew (List.contains_iff_mem.mp hseen)
    · next hseen =>
      rw [List.contains_iff_mem] at hseen
      simp only [bind_eq_ok, ValueOption.apply_eq_ok hdecode]
      constructor
      · rintro ⟨_, ⟨x, hx, rfl⟩, hrest⟩
        exact ⟨o, x, hname, hseen, hx, hrest⟩
      · rintro ⟨p, x, hp, -, hx, hrest⟩
        obtain rfl := hp.unique hname
        exact ⟨_, ⟨x, hx, rfl⟩, hrest⟩

/-- Behind a group of one option there are groups of others. -/
theorem exists_not_mem_cons {seen : List ValueOption} {g : OptionGroup} {o : ValueOption}
    (hname : g.Names o) {rest : List OptionGroup}
    (hother : ∀ h ∈ rest, ∀ p, g.Names p → ¬ h.Names p)
    (hnamed : ∀ h ∈ rest, ∃ p, h.Names p ∧ p ∉ seen) :
    ∀ h ∈ rest, ∃ p, h.Names p ∧ p ∉ o :: seen := by
  intro h hh
  obtain ⟨p, hp, hpnew⟩ := hnamed h hh
  refine ⟨p, hp, fun hseen => ?_⟩
  rcases List.mem_cons.mp hseen with rfl | hseen
  · exact hother h hh p hname hp
  · exact hpnew hseen

/-- Groups are applied if they take the value to the other. -/
theorem applyAll_eq_ok (hdecode : decode.Documented) {seen : List ValueOption}
    {groups : List OptionGroup} {v w : PropertyValue} :
    applyAll decode seen v groups = .ok w ↔ Take seen groups v w := by
  induction groups generalizing seen v with
  | nil =>
    rw [applyAll, Except.ok.injEq]
    constructor
    · rintro rfl
      exact ⟨nofun, .nil, nofun, fun _ _ => rfl, rfl, rfl⟩
    · intro h
      exact ValueOption.eq_of_field_eq h.prop.symm h.status.symm fun o => (h.rest o nofun).symm
  | cons g rest ih =>
    rw [applyAll_cons_eq_ok hdecode]
    constructor
    · rintro ⟨o, x, hname, hnew, hx, hrest⟩
      obtain ⟨hnamed, honce, hsaid, hstay, hprop, hstatus⟩ := ih.mp hrest
      -- no later group is of the same option, because that has been seen by then
      have hother : ∀ h ∈ rest, ¬ h.Names o := by
        intro h hh ho
        obtain ⟨p, hp, hpnew⟩ := hnamed h hh
        exact hpnew (hp.unique ho ▸ List.mem_cons_self)
      refine ⟨?_, List.pairwise_cons.mpr ⟨?_, honce⟩, ?_, ?_, ?_, ?_⟩
      · rw [List.forall_mem_cons]
        refine ⟨⟨o, hname, hnew⟩, fun h hh => ?_⟩
        obtain ⟨p, hp, hpnew⟩ := hnamed h hh
        exact ⟨p, hp, fun hseen => hpnew (List.mem_cons_of_mem o hseen)⟩
      · intro h hh p hp
        rw [hp.unique hname]
        exact hother h hh
      · rw [List.forall_mem_cons]
        refine ⟨fun p hp => ?_, hsaid⟩
        obtain rfl := hp.unique hname
        rwa [hstay p hother, p.field_withField]
      · intro p hp
        rw [List.forall_mem_cons] at hp
        have hne : p ≠ o := fun h => hp.1 (h ▸ hname)
        rw [hstay p hp.2, ValueOption.field_withField_of_ne hne]
      · rw [hprop, o.prop_withField]
      · rw [hstatus, o.status_withField]
    · rintro ⟨hnamed, honce, hsaid, hstay, hprop, hstatus⟩
      rw [List.forall_mem_cons] at hnamed hsaid
      rw [List.pairwise_cons] at honce
      obtain ⟨⟨o, hname, hnew⟩, hnamed⟩ := hnamed
      -- the rest goes on from the value that has what this group says, as the last one has
      refine ⟨o, o.field w, hname, hnew, hsaid.1 o hname, ih.mpr
        ⟨exists_not_mem_cons hname honce.1 hnamed, honce.2, hsaid.2, ?_, ?_, ?_⟩⟩
      · intro p hp
        by_cases hpo : p = o
        · subst hpo
          exact (p.field_withField _ v).symm
        · rw [ValueOption.field_withField_of_ne hpo]
          refine hstay p (List.forall_mem_cons.mpr ⟨fun hg => hpo (hg.unique hname), hp⟩)
      · rw [hprop, o.prop_withField]
      · rw [hstatus, o.status_withField]

/-- Groups whose options are all different and have arguments that they may have can be applied. -/
theorem exists_applyAll (hdecode : decode.Documented) {seen : List ValueOption}
    {groups : List OptionGroup}
    (hnamed : ∀ g ∈ groups, ∃ o, g.Names o ∧ o ∉ seen)
    (honce : groups.Pairwise fun g h => ∀ o, g.Names o → ¬ h.Names o)
    (haccepted : ∀ g ∈ groups, ∀ o, g.Names o → ∃ x, o.Accepts g.arguments x)
    (v : PropertyValue) : ∃ w, applyAll decode seen v groups = .ok w := by
  induction groups generalizing seen v with
  | nil => exact ⟨v, rfl⟩
  | cons g rest ih =>
    rw [List.forall_mem_cons] at hnamed haccepted
    rw [List.pairwise_cons] at honce
    obtain ⟨⟨o, hname, hnew⟩, hnamed⟩ := hnamed
    obtain ⟨x, hx⟩ := haccepted.1 o hname
    have hrest := exists_not_mem_cons hname honce.1 hnamed
    obtain ⟨w, hw⟩ := ih hrest honce.2 haccepted.2 (o.withField x v)
    exact ⟨w, (applyAll_cons_eq_ok hdecode).mpr ⟨o, x, hname, hnew, hx, hw⟩⟩

/-! ## The commands -/

/-- The grammar does not mind the order of groups. -/
theorem Grammatical.perm {groups order : List OptionGroup} (h : Grammatical groups)
    (hperm : order.Perm groups) : Grammatical order := by
  have hsymm : ∀ {g h : OptionGroup}, (∀ o, g.Names o → ¬ h.Names o) →
      ∀ o, h.Names o → ¬ g.Names o := fun hgh o hh hg => hgh o hg hh
  exact ⟨fun g hg => h.named g (hperm.mem_iff.mp hg),
    fun g hg => h.delimited g (hperm.mem_iff.mp hg), (hperm.pairwise_iff hsymm).mpr h.once,
    fun g hg => h.accepted g (hperm.mem_iff.mp hg)⟩

/-- Neither does what is described. -/
theorem Describe.perm {id : Int32} {groups order : List OptionGroup} {v : PropertyValue}
    (h : Describe id groups v) (hperm : order.Perm groups) : Describe id order v :=
  ⟨h.prop, h.status, fun g hg => h.said g (hperm.mem_iff.mp hg),
    fun o ho => h.unsaid o fun g hg => ho g (hperm.mem_iff.mpr hg)⟩

/-- At first no option was used. -/
theorem exists_not_mem_nil {groups : List OptionGroup} (h : ∀ g ∈ groups, ∃ o, g.Names o) :
    ∀ g ∈ groups, ∃ o, g.Names o ∧ o ∉ ([] : List ValueOption) := by
  intro g hg
  obtain ⟨o, ho⟩ := h g hg
  exact ⟨o, ho, List.not_mem_nil⟩

/-- From a value that has nothing, groups of different options lead to what they describe. -/
theorem take_iff_describe {groups : List OptionGroup} (hnamed : ∀ g ∈ groups, ∃ o, g.Names o)
    (honce : groups.Pairwise fun g h => ∀ o, g.Names o → ¬ h.Names o) {id : Int32}
    {v : PropertyValue} : Take [] groups (.ofKey id 0) v ↔ Describe id groups v := by
  constructor
  · intro h
    exact ⟨h.prop, h.status, h.said, fun o ho => (h.rest o ho).trans (o.field_ofKey id)⟩
  · intro h
    exact ⟨exists_not_mem_nil hnamed, honce, h.said,
      fun o ho => (h.unsaid o ho).trans (o.field_ofKey id).symm, h.prop, h.status⟩

/-- What is read of a property and groups in the grammar is what they describe. -/
theorem value_eq_ok (hdecode : decode.Documented) {prop : String} {id : Int32}
    (hid : IntegerText.IsInt32 prop id) {groups : List OptionGroup} (h : Grammatical groups)
    {v : PropertyValue} :
    Reading.valueWith decode (prop :: written groups) = .ok v ↔ Describe id groups v := by
  have hread := IntegerText.int32_iff.mpr hid
  rw [Reading.valueWith, split_written h.named h.delimited, bind_eq_ok, ←
    take_iff_describe h.named h.once, ← applyAll_eq_ok hdecode]
  simp only [Reading.label_eq_ok, hread, Except.ok.injEq, exists_eq_left']

/-- A property and groups in the grammar are read. -/
theorem exists_value (hdecode : decode.Documented) {prop : String} {id : Int32}
    (hid : IntegerText.IsInt32 prop id) {groups : List OptionGroup} (h : Grammatical groups) :
    ∃ v, Reading.valueWith decode (prop :: written groups) = .ok v := by
  obtain ⟨v, hv⟩ :=
    exists_applyAll hdecode (exists_not_mem_nil h.named) h.once h.accepted (.ofKey id 0)
  have hdescribe := (take_iff_describe h.named h.once).mp ((applyAll_eq_ok hdecode).mp hv)
  exact ⟨v, (value_eq_ok hdecode hid h).mpr hdescribe⟩

/-- Only a property and groups in the grammar are read. -/
theorem grammatical_of_value (hdecode : decode.Documented) {tokens : List String}
    {v : PropertyValue} (h : Reading.valueWith decode tokens = .ok v) : ∃ prop id groups,
      tokens = prop :: written groups ∧ IntegerText.IsInt32 prop id ∧ Grammatical groups := by
  cases tokens with
  | nil => cases h
  | cons prop options =>
    rw [Reading.valueWith, bind_eq_ok] at h
    obtain ⟨id, hid, hgroups⟩ := h
    have htake := (applyAll_eq_ok hdecode).mp hgroups
    refine ⟨prop, id, split options, by rw [written_split],
      IntegerText.int32_iff.mp (Reading.label_eq_ok.mp hid), ?_,
      fun g hg argument harg o => delimited_split hg harg o, htake.once,
      fun g hg o ho => ⟨o.field v, htake.said g hg o ho⟩⟩
    intro g hg
    obtain ⟨o, ho, -⟩ := htake.named g hg
    exact ⟨o, ho⟩

/-- Which commands name a value, and which value. Behind its own name such a command has a property
and groups in the grammar. The value is the one that these describe, in whatever order they are.
Byte strings may be read by any decoder that does what is documented. -/
theorem value_iff_grammatical {decode : HexDecoder} (hdecode : decode.Documented) :
    (∀ tokens : List String, (∃ v, Reading.valueWith decode tokens.tail = .ok v) ↔
      ∃ command prop id groups, tokens = command :: prop :: written groups ∧
        IntegerText.IsInt32 prop id ∧ Grammatical groups) ∧
    ∀ (prop : String) (id : Int32) (groups : List OptionGroup), IntegerText.IsInt32 prop id →
      Grammatical groups →
        (∀ v, Reading.valueWith decode (prop :: written groups) = .ok v ↔ Describe id groups v) ∧
        ∀ order : List OptionGroup, order.Perm groups →
          Reading.valueWith decode (prop :: written order) =
            Reading.valueWith decode (prop :: written groups) := by
  refine ⟨fun tokens => ⟨?_, ?_⟩, fun prop id groups hid h =>
    ⟨fun v => value_eq_ok hdecode hid h, ?_⟩⟩
  · rintro ⟨v, hv⟩
    obtain ⟨prop, id, groups, htokens, hid, h⟩ := grammatical_of_value hdecode hv
    cases tokens with
    | nil => cases htokens
    | cons command rest => exact ⟨command, prop, id, groups, congrArg _ htokens, hid, h⟩
  · rintro ⟨command, prop, id, groups, rfl, hid, h⟩
    exact exists_value hdecode hid h
  · intro order hperm
    obtain ⟨v, hv⟩ := exists_value hdecode hid h
    have horder := ((value_eq_ok hdecode hid h).mp hv).perm hperm
    exact ((value_eq_ok hdecode hid (h.perm hperm)).mpr horder).trans hv.symm

/-- Integers may start with a dash, and byte strings have digits of either case. The groups come in
either order. -/
theorem value_grammatical_of_dashed :
    Reading.value ["5", "-I", "1", "-2", "-b", "0X0aFf"] =
        .ok { prop := 5, payload := { int32s := [1, -2], bytes := [10, 255] } } ∧
      Reading.value ["5", "-b", "0X0aFf", "-I", "1", "-2"] =
        .ok { prop := 5, payload := { int32s := [1, -2], bytes := [10, 255] } } := by
  have hid : IntegerText.IsInt32 "5" 5 := IntegerText.int32_iff.mp rfl
  have hnumbers (o : ValueOption) : lowerAscii "-I" = o.name ↔ o = .int32s := by
    cases o <;> decide
  have hbytes (o : ValueOption) : lowerAscii "-b" = o.name ↔ o = .bytes := by
    cases o <;> decide
  have hnone (t : String) (h : ValueOption.isOption t = false) (o : ValueOption) :
      lowerAscii t ≠ o.name := fun ho => by simp [isOption_iff.mpr ⟨o, ho⟩] at h
  have hread : ValueOption.Accepts .int32s ["1", "-2"] [1, -2] :=
    ⟨nofun, .cons (IntegerText.int32_iff.mp rfl) (.cons (IntegerText.int32_iff.mp rfl) .nil)⟩
  have htold : ValueOption.Accepts .bytes ["0X0aFf"] [10, 255] :=
    ⟨"0X0aFf", rfl, (byteString_eq_ok documented_bytesOfHex).mp rfl⟩
  have hgroups : Grammatical [⟨"-I", ["1", "-2"]⟩, ⟨"-b", ["0X0aFf"]⟩] := by
    constructor <;> simp only [Names, hnumbers, hbytes, List.forall_mem_cons, List.pairwise_cons]
    · exact ⟨⟨_, rfl⟩, ⟨_, rfl⟩, nofun⟩
    · exact ⟨⟨hnone _ (by decide), hnone _ (by decide), nofun⟩, ⟨hnone _ (by decide), nofun⟩, nofun⟩
    · exact ⟨⟨by rintro _ rfl; decide, nofun⟩, nofun, .nil⟩
    · exact ⟨by rintro _ rfl; exact ⟨_, hread⟩, by rintro _ rfl; exact ⟨_, htold⟩, nofun⟩
  obtain ⟨hvalue, horder⟩ := (value_iff_grammatical documented_bytesOfHex).2 "5" 5 _ hid hgroups
  have hfirst : Reading.value ["5", "-I", "1", "-2", "-b", "0X0aFf"] =
      .ok { prop := 5, payload := { int32s := [1, -2], bytes := [10, 255] } } := by
    refine (hvalue _).mpr ⟨rfl, rfl, ?_, ?_⟩ <;>
      simp only [Names, hnumbers, hbytes, List.forall_mem_cons]
    · exact ⟨by rintro _ rfl; exact hread, by rintro _ rfl; exact htold, nofun⟩
    · rintro o ⟨hnot, hnot', -⟩
      cases o <;> first | rfl | exact absurd rfl hnot | exact absurd rfl hnot'
  exact ⟨hfirst, (horder [⟨"-b", ["0X0aFf"]⟩, ⟨"-I", ["1", "-2"]⟩] (.swap _ _ _)).trans hfirst⟩

end OptionGroup

end BenchVehicle
