import CloudSpace.Proofs.Delta

/-!
# Fields of records

A field holds content of one of a few types, and each type differs in a way of its own: a value
as a whole, a list as a set, a map key by key. There is a difference exactly between contents
that do not agree. It separates the two, and it suffices to bring the one to the other, because
the text of a value is the text of no other value of its type.
-/
namespace CloudSpace

/-! ### Values and their texts -/

/-- The types of the values a setting can have. -/
inductive ValueType
  | text | word | flag | healthCheck

/-- The number of a text in decimal digits, if it is one of 32 bits. -/
def UInt32.ofDecimal? (text : String) : Option UInt32 :=
  let number := Nat.ofDigitChars 10 text.toList 0
  if text.toList ≠ [] ∧ text.toList.all Char.isDigit ∧ number < UInt32.size then
    some (.ofNat number)
  else none

/-- The digits of a word are read back as the word. -/
theorem ofDecimal?_toString (word : UInt32) :
    UInt32.ofDecimal? (toString word.toNat) = some word := by
  have digits : (toString word.toNat).toList = Nat.toDigits 10 word.toNat := by
    rw [Nat.toString_eq_ofList_toDigits, String.toList_ofList]
  have all : (Nat.toDigits 10 word.toNat).all Char.isDigit = true :=
    List.all_eq_true.mpr fun digit member =>
      Nat.isDigit_of_mem_toDigits (by decide) (by decide) member
  have bound : word.toNat < UInt32.size := word.toNat_lt
  rw [UInt32.ofDecimal?, digits, Nat.ofDigitChars_ten_toDigits,
    if_pos ⟨Nat.toDigits_ne_nil, all, bound⟩, UInt32.ofNat_toNat]

namespace ValueType

/-- The values of a type. -/
abbrev Carrier : ValueType → Type
  | text => String
  | word => UInt32
  | flag => Bool
  | healthCheck => HealthCheckType

instance decidableEq : (type : ValueType) → DecidableEq type.Carrier
  | text => inferInstanceAs (DecidableEq String)
  | word => inferInstanceAs (DecidableEq UInt32)
  | flag => inferInstanceAs (DecidableEq Bool)
  | healthCheck => inferInstanceAs (DecidableEq HealthCheckType)

/-- The text of a value in a difference. -/
def render : (type : ValueType) → type.Carrier → String
  | text, (value : String) => value
  | word, (value : UInt32) => toString value.toNat
  | flag, (value : Bool) => if value then "true" else "false"
  | healthCheck, (value : HealthCheckType) => value.name

/-- The value with a text. -/
def read? : (type : ValueType) → String → Option type.Carrier
  | text, rendered => some rendered
  | word, rendered => UInt32.ofDecimal? rendered
  | flag, rendered =>
    if rendered = "true" then some true else if rendered = "false" then some false else none
  | healthCheck, rendered => HealthCheckType.ofName? rendered

/-- A value of a field is read back from its text, whatever its type. -/
theorem read?_render : ∀ (type : ValueType) (value : type.Carrier),
    type.read? (type.render value) = some value
  | text, _ => rfl
  | word, value => ofDecimal?_toString value
  | flag, value => by cases value <;> rfl
  | healthCheck, value => HealthCheckType.ofName?_name value

theorem mapM_read?_render (type : ValueType) (value : Option type.Carrier) :
    (value.map type.render).mapM type.read? = some value := by
  cases value with
  | none => rfl
  | some value => exact congrArg (Option.map some) (type.read?_render value)

end ValueType

/-! ### Differences of values, lists and maps -/

/-- The difference of two values that may be absent. -/
def valueDifference? (type : ValueType) (held wanted : Option type.Carrier) :
    Option Difference :=
  if held = wanted then none
  else some (.value (held.map type.render) (wanted.map type.render))

/-- The difference of two lists of names. -/
def namesDifference? (held wanted : List String) : Option Difference :=
  let (added, removed) := collectionDelta held wanted
  if added.isEmpty && removed.isEmpty then none else some (.collection added removed)

/-- The difference of two maps. -/
def entriesDifference? (held wanted : NameMap String) : Option Difference :=
  let changes := mapDelta held wanted
  if changes.isEmpty then none else some (.map changes)

theorem valueDifference?_eq_none_iff {type : ValueType} {held wanted : Option type.Carrier} :
    valueDifference? type held wanted = none ↔ held = wanted := by
  simp [valueDifference?]

theorem valueDifference?_eq_some_iff {type : ValueType} {held wanted : Option type.Carrier}
    {difference : Difference} :
    valueDifference? type held wanted = some difference ↔
      held ≠ wanted ∧ .value (held.map type.render) (wanted.map type.render) = difference := by
  simp [valueDifference?]

/-- Lists of names do not differ exactly where they have the same members. -/
theorem namesDifference?_eq_none_iff {held wanted : List String} :
    namesDifference? held wanted = none ↔ SameMembers held wanted := by
  simp [namesDifference?, collectionDelta_empty_iff]

theorem namesDifference?_eq_some_iff {held wanted : List String} {difference : Difference} :
    namesDifference? held wanted = some difference ↔ ¬ SameMembers held wanted ∧
      .collection (collectionDelta held wanted).1 (collectionDelta held wanted).2 = difference := by
  rw [← collectionDelta_empty_iff]
  simp [namesDifference?]

theorem entriesDifference?_eq_none_iff {held wanted : NameMap String} :
    entriesDifference? held wanted = none ↔ held = wanted := by
  simp [entriesDifference?, mapDelta_empty_iff]

theorem entriesDifference?_eq_some_iff {held wanted : NameMap String} {difference : Difference} :
    entriesDifference? held wanted = some difference ↔
      held ≠ wanted ∧ .map (mapDelta held wanted) = difference := by
  rw [ne_eq, ← mapDelta_empty_iff]
  simp [entriesDifference?]

/-! ### Types of fields -/

/-- The types of what a field can hold. -/
inductive FieldType
  /-- A text that is never absent. -/
  | required
  | optional (type : ValueType)
  /-- Names whose order and repetition mean nothing. -/
  | names
  | entries

/-- Names to be added to a list and removed from it separate it from another. -/
structure SeparatesNames (added removed held wanted : List String) : Prop where
  gained : ∀ name, name ∈ added ↔ name ∈ wanted ∧ name ∉ held
  lost : ∀ name, name ∈ removed ↔ name ∈ held ∧ name ∉ wanted
  ascending : added.Pairwise (· < ·) ∧ removed.Pairwise (· < ·)
  nonempty : ¬ (added = [] ∧ removed = [])

/-- Changes of entries of a map separate it from another. -/
structure SeparatesEntries (changes : List EntryChange) (held wanted : NameMap String) : Prop where
  keys : ∀ key, key ∈ changes.map (·.key) ↔ held.get? key ≠ wanted.get? key
  before : ∀ change ∈ changes, change.before = held.get? change.key
  after : ∀ change ∈ changes, change.after = wanted.get? change.key
  added : ∀ change ∈ changes, change.kind = .added ↔ held.get? change.key = none
  removed : ∀ change ∈ changes, change.kind = .removed ↔ wanted.get? change.key = none
  ascending : changes.Pairwise (fun first second => first.key < second.key)
  nonempty : changes ≠ []

theorem separatesNames_collectionDelta {held wanted : List String}
    (distinct : ¬ SameMembers held wanted) :
    SeparatesNames (collectionDelta held wanted).1 (collectionDelta held wanted).2 held wanted :=
  ⟨fun _ => mem_collectionDelta_added, fun _ => mem_collectionDelta_removed,
    ascending_collectionDelta held wanted, mt collectionDelta_empty_iff.mp distinct⟩

/-- What changes of a map are the entries that tell two maps apart. -/
theorem separatesEntries_mapDelta {held wanted : NameMap String} (distinct : held ≠ wanted) :
    SeparatesEntries (mapDelta held wanted) held wanted where
  keys _ := mem_keys_mapDelta
  before _ member := (entryDelta_before (mem_mapDelta.mp member)).1
  after _ member := (entryDelta_after (mem_mapDelta.mp member)).1
  added _ member := (entryDelta_before (mem_mapDelta.mp member)).2
  removed _ member := (entryDelta_after (mem_mapDelta.mp member)).2
  ascending := ascending_mapDelta held wanted
  nonempty := mt mapDelta_empty_iff.mp distinct

namespace FieldType

abbrev Content : FieldType → Type
  | required => String
  | optional type => Option type.Carrier
  | names => List String
  | entries => NameMap String

/-- Whether two contents count as the same. -/
def Agrees : (type : FieldType) → type.Content → type.Content → Prop
  | required, first, second => first = second
  | optional _, first, second => first = second
  | names, first, second => SameMembers first second
  | entries, first, second => first = second

/-- The difference of two contents, if they differ. -/
def difference? : (type : FieldType) → type.Content → type.Content → Option Difference
  | required, held, wanted => valueDifference? .text (some held) (some wanted)
  | optional type, held, wanted => valueDifference? type held wanted
  | names, held, wanted => namesDifference? held wanted
  | entries, held, wanted => entriesDifference? held wanted

/-- A difference holds just what separates two contents that do not agree. -/
inductive Separates : (type : FieldType) → Difference → type.Content → type.Content → Prop
  | required {held wanted : String} (distinct : held ≠ wanted) :
    Separates .required (.value (some held) (some wanted)) held wanted
  | optional {type : ValueType} {held wanted : Option type.Carrier} (distinct : held ≠ wanted) :
    Separates (.optional type) (.value (held.map type.render) (wanted.map type.render)) held wanted
  | names {added removed held wanted : List String}
    (separates : SeparatesNames added removed held wanted) :
    Separates .names (.collection added removed) held wanted
  | entries {changes : List EntryChange} {held wanted : NameMap String}
    (separates : SeparatesEntries changes held wanted) :
    Separates .entries (.map changes) held wanted

/-- What a difference says was there is what a field holds. -/
inductive StartsFrom : (type : FieldType) → Difference → type.Content → Prop
  | required {held : String} {after : Option String} :
    StartsFrom .required (.value (some held) after) held
  | optional {type : ValueType} {held : Option type.Carrier} {after : Option String} :
    StartsFrom (.optional type) (.value (held.map type.render) after) held
  | names {added removed held : List String} (there : ∀ name ∈ removed, name ∈ held) :
    StartsFrom .names (.collection added removed) held
  | entries {changes : List EntryChange} {held : NameMap String}
    (there : ∀ change ∈ changes, change.before = held.get? change.key) :
    StartsFrom .entries (.map changes) held

/-- The content that a difference makes of another one, if it is a difference of the type. -/
def patch? : (type : FieldType) → Difference → type.Content → Option type.Content
  | required, .value _ after, _ => after
  | optional type, .value _ after, _ => after.mapM type.read?
  | names, .collection added removed, (held : List String) =>
    some (held.filter (fun name => !removed.contains name) ++ added)
  | entries, .map changes, (held : NameMap String) => some (changes.foldl settleEntry held)
  | _, _, _ => none

variable {type : FieldType} {held wanted : type.Content} {difference : Difference}

/-- A field does not differ exactly where its contents agree, as its type has it. -/
theorem difference?_eq_none_iff :
    type.difference? held wanted = none ↔ type.Agrees held wanted := by
  cases type with
  | required => exact valueDifference?_eq_none_iff.trans Option.some_inj
  | optional => exact valueDifference?_eq_none_iff
  | names => exact namesDifference?_eq_none_iff
  | entries => exact entriesDifference?_eq_none_iff

/-- What differs of a field says how the two contents differ. -/
theorem separates_of_difference? (differs : type.difference? held wanted = some difference) :
    type.Separates difference held wanted := by
  -- Each type of field has a difference of its own form, which tells its contents apart.
  cases type with
  | required =>
    obtain ⟨distinct, rfl⟩ := valueDifference?_eq_some_iff.mp differs
    exact .required fun same => distinct (congrArg some same)
  | optional =>
    obtain ⟨distinct, rfl⟩ := valueDifference?_eq_some_iff.mp differs
    exact .optional distinct
  | names =>
    obtain ⟨distinct, rfl⟩ := namesDifference?_eq_some_iff.mp differs
    exact .names (separatesNames_collectionDelta distinct)
  | entries =>
    obtain ⟨distinct, rfl⟩ := entriesDifference?_eq_some_iff.mp differs
    exact .entries (separatesEntries_mapDelta distinct)

theorem Separates.startsFrom (separates : type.Separates difference held wanted) :
    type.StartsFrom difference held := by
  cases separates with
  | required => exact .required
  | optional => exact .optional
  | names separates => exact .names fun name member => ((separates.lost name).mp member).1
  | entries separates => exact .entries separates.before

theorem Separates.ne_objectAdded (separates : type.Separates difference held wanted) :
    difference ≠ .objectAdded := by
  cases separates <;> simp

theorem Separates.ne_objectRemoved (separates : type.Separates difference held wanted) :
    difference ≠ .objectRemoved := by
  cases separates <;> simp

/-- A difference that is applied to what it started from leads to what agrees with the other. -/
theorem patch?_of_difference? (differs : type.difference? held wanted = some difference) :
    ∃ patched, type.patch? difference held = some patched ∧ type.Agrees patched wanted := by
  cases type with
  | required =>
    obtain ⟨_, rfl⟩ := valueDifference?_eq_some_iff.mp differs
    exact ⟨wanted, rfl, rfl⟩
  -- A single value is read back from its text, while lists and maps are settled entry by entry.
  | optional type =>
    obtain ⟨_, rfl⟩ := valueDifference?_eq_some_iff.mp differs
    exact ⟨wanted, type.mapM_read?_render wanted, rfl⟩
  | names =>
    obtain ⟨_, rfl⟩ := namesDifference?_eq_some_iff.mp differs
    exact ⟨_, rfl, sameMembers_collectionDelta⟩
  | entries =>
    obtain ⟨_, rfl⟩ := entriesDifference?_eq_some_iff.mp differs
    exact ⟨_, rfl, foldl_settleEntry_mapDelta⟩

end FieldType

end CloudSpace
