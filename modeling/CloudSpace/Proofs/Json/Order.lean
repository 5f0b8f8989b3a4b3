import CloudSpace.Cloud.Resource
import CloudSpace.Proofs.Cloud.Entry
import CloudSpace.Proofs.Json.Layout
import CloudSpace.Proofs.Yaml.Layout

/-!
# The order of fields means nothing

Who reads a record looks for its fields by name, so that two texts say the same if they differ in
the order of fields only. What is read of a value by name is what is read of it with the fields of
all records sorted, of which there is one for each name.
-/
namespace CloudSpace

namespace Value

/-! ### Sorted values -/

theorem sortedItems_eq_map (items : List Value) : sortedItems items = items.map sorted := by
  induction items with
  | nil => rfl
  | cons item rest ih => rw [sortedItems, ih, List.map_cons]

theorem sortedFields_eq_map (fields : List (String × Value)) :
    sortedFields fields = fields.map fun field => (field.1, field.2.sorted) := by
  induction fields with
  | nil => rfl
  | cons field rest ih => rw [sortedFields, ih, List.map_cons]

theorem sorted_list (items : List Value) : (list items).sorted = .list (items.map sorted) := by
  rw [sorted, sortedItems_eq_map]

theorem get?_sorted (value : Value) (name : String) :
    value.sorted.get? name = (value.get? name).map sorted := by
  cases value with
  | record fields =>
    rw [sorted, get?_record, NameMap.ofList_entries, NameMap.get?_ofList, sortedFields_eq_map,
      ← List.map_reverse, List.find?_map, get?_record, NameMap.get?_ofList]
    simp only [Option.map_map]
    rfl
  | list items => rw [sorted_list]; rfl
  | _ => rfl

theorem sorted_ofTextList (texts : List String) : (ofTextList texts).sorted = ofTextList texts := by
  rw [ofTextList, sorted_list, List.map_map]
  rfl

/-- The entries of a map are sorted by name as they are. -/
theorem sorted_ofTexts (map : NameMap String) :
    (ofTexts map.entries).sorted = ofTexts map.entries := by
  have fields : ofTexts map.entries = .record (map.map Value.text).entries := rfl
  -- The entries of a map are in order already, and texts have no fields.
  rw [fields, sorted, sortedFields_eq_map]
  have texts : (map.map Value.text).entries.map (fun field => (field.1, field.2.sorted)) =
      (map.map Value.text).entries := by
    simp only [NameMap.map, List.map_map]
    rfl
  rw [texts, NameMap.ofList_entries]

/-! ### Reading by name -/

theorem text?_sorted (value : Value) : value.sorted.text? = value.text? := by
  cases value <;> rfl

theorem word32?_sorted (value : Value) : value.sorted.word32? = value.word32? := by
  cases value <;> rfl

theorem texts?_sorted (value : Value) : value.sorted.texts? = value.texts? := by
  cases value with
  | list items =>
    rw [sorted_list]
    simp only [texts?, items?, Option.bind_some, List.mapM_map, Function.comp_def, text?_sorted]
  | _ => rfl

/-- A text is read of a record whatever order its fields have. -/
theorem textOf_sorted (value : Value) (field : String) :
    value.sorted.textOf field = value.textOf field := by
  have read : (value.sorted.get? field).bind text? = (value.get? field).bind text? := by
    rw [get?_sorted, Option.bind_map]
    exact congrArg _ (funext text?_sorted)
  rw [textOf, read, textOf]

section

variable {α : Type}

/-- What reads a field regardless of the order within it reads it regardless of the order without.
-/
theorem optionalOf_sorted {read : Value → Option α}
    (unordered : ∀ value, read value.sorted = read value) (value : Value) (field : String) :
    value.sorted.optionalOf read field = value.optionalOf read field := by
  rw [optionalOf, optionalOf, get?_sorted]
  cases value.get? field with
  | none => rfl
  | some given =>
    -- Only lists and records look different when they are sorted.
    have same := unordered given
    cases given with
    | list items =>
      simp only [Option.map_some, sorted] at same ⊢
      rw [same]
    | record fields =>
      simp only [Option.map_some, sorted] at same ⊢
      rw [same]
    | _ => rfl

theorem textsOf_sorted (value : Value) (field : String) :
    value.sorted.textsOf field = value.textsOf field := by
  rw [textsOf, textsOf, get?_sorted]
  cases value.get? field with
  | none => rfl
  | some given =>
    have same := texts?_sorted given
    cases given with
    | list items =>
      simp only [Option.map_some, sorted] at same ⊢
      rw [same]
    | _ => rfl

/-- The items of a list are those of the sorted list, each sorted. -/
theorem itemsOf_sorted (value : Value) (field : String) :
    value.sorted.itemsOf field = (value.itemsOf field).map (·.map sorted) := by
  rw [itemsOf, itemsOf, get?_sorted]
  cases value.get? field with
  | none => rfl
  | some given =>
    cases given with
    | list items =>
      simp only [Option.map_some, sorted, sortedItems_eq_map]
      rfl
    | _ => rfl

end

/-! ### Reading what was written -/

theorem texts?_ofTextList (texts : List String) : (ofTextList texts).texts? = some texts := by
  rw [ofTextList, texts?, items?, Option.bind_some, List.mapM_map]
  exact (List.mapM_pure (f := id)).trans (congrArg some (List.map_id texts))

section

variable {value : Value} {name : String}

/-- A list of texts is read back as it was written. -/
theorem textsOf_of_has {texts : List String}
    (has : value.get? name = some (ofTextList texts)) : value.textsOf name = .ok texts := by
  have read : (list (texts.map .text)).texts? = some texts := texts?_ofTextList texts
  rw [textsOf, has, ofTextList]
  simp only [read]

theorem optionalOf_of_has {α : Type} {read : Value → Option α} {given : Value} {found : α}
    (has : value.get? name = some given) (present : given ≠ .null)
    (reads : read given = some found) : value.optionalOf read name = .ok (some found) := by
  rw [optionalOf, has]
  cases given with
  | null => exact absurd rfl present
  | _ => simp only [reads]

/-- A number is read back if there was one, and its absence is read as its absence. -/
theorem optionalOf_word {word : Option UInt32}
    (held : value.get? name = word.map (.int ·.toNat)) :
    value.optionalOf word32? name = .ok word := by
  cases word with
  | none =>
    rw [optionalOf, held]
    rfl
  | some word => exact optionalOf_of_has held (by simp) (word32?_toNat word)

end

/-! ### Values that say the same -/

/-- Values that are written as the same text in one of the layouts, or that differ in the order of
fields at most. -/
def SameJson (first second : Value) : Prop :=
  Json.compact first = Json.compact second ∨ Json.pretty first = Json.pretty second ∨
    first.sorted = second.sorted

theorem SameJson.refl (value : Value) : value.SameJson value := .inl rfl

/-- There are no floats in documents. -/
theorem exact_of_writable {value : Value} (writable : Yaml.Writable value) : Json.Exact value := by
  induction writable with
  | leaf leaf =>
    cases leaf with
    | emptyList => exact .list (List.forall_mem_nil _)
    | emptyRecord => exact .record (List.forall_mem_nil _)
    | _ => constructor
  | list _ ih => exact .list ih
  | record _ ih => exact .record ih

/-- What is written the same says the same. -/
theorem SameJson.sorted_eq {first second : Value} (writable : Yaml.Writable first)
    (too : Yaml.Writable second) (same : first.SameJson second) :
    first.sorted = second.sorted := by
  have exact := exact_of_writable writable
  have exactToo := exact_of_writable too
  obtain compact | pretty | unordered := same
  · rw [Json.compact_inj exact exactToo compact]
  · rw [Json.pretty_inj exact exactToo pretty]
  · exact unordered

/-- What is said under a name is the same. -/
theorem map_get?_of_sorted_eq {first second : Value} (same : first.sorted = second.sorted)
    (name : String) : (first.get? name).map sorted = (second.get? name).map sorted := by
  rw [← get?_sorted, same, get?_sorted]

end Value

end CloudSpace
