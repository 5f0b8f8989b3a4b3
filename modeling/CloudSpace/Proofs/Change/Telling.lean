import CloudSpace.Change.Encoding
import CloudSpace.Proofs.Diff.Exact
import CloudSpace.Proofs.Plan.Reading
import CloudSpace.Proofs.Record.Telling

/-!
# Changes are told apart

The steps of a path are written as plain texts, and where a step stands says which sort it is of:
first the section, then the entity, and then the fields. What is written of a change has the path,
the record that owns the place and the difference, each under names of its own.
-/
namespace CloudSpace

open Value

/-! ### Paths -/

namespace Path

/-- The path to a section, or that to an entity or into it. -/
inductive Regular : Path → Prop
  | ofKind (kind : EntityKind) : Regular (.ofKind kind)
  | inEntity (kind : EntityKind) (name : String) (fields : List String) :
    Regular ⟨.kind kind :: .entity name :: fields.map .field⟩

/-- The path with these texts. -/
def ofTexts? : List String → Option Path
  | [] => none
  | [title] => (EntityKind.ofSectionName? title).map .ofKind
  | title :: name :: fields => (EntityKind.ofSectionName? title).map fun kind =>
    ⟨.kind kind :: .entity name :: fields.map .field⟩

/-- A path that the differ makes is read back from its texts. -/
theorem Regular.ofTexts?_texts {path : Path} (regular : path.Regular) :
    ofTexts? path.texts = some path := by
  cases regular with
  | ofKind kind => cases kind <;> rfl
  | inEntity kind name fields =>
    -- Any text may be the name of an entity or of a field, and only that of a section is looked up.
    have texts : (fields.map Segment.field).map Segment.text = fields := by
      rw [List.map_map]
      exact List.map_id fields
    rw [Path.texts, List.map_cons, List.map_cons, texts]
    cases kind <;> rfl

theorem Regular.eq_of_texts_eq {first second : Path} (regular : first.Regular)
    (too : second.Regular) (same : first.texts = second.texts) : first = second := by
  have read := regular.ofTexts?_texts
  rw [same, too.ofTexts?_texts] at read
  exact (Option.some.inj read).symm

end Path

/-- All paths of the differ are regular, whatever the schema. -/
theorem Schema.regular_of_mem_diff {α : Type} {schema : Schema α} {live desired : NameMap α}
    {change : Change} (member : change ∈ schema.diff live desired) : change.path.Regular := by
  obtain ⟨name, within⟩ := Schema.isWithin_of_mem_diff member
  rw [Schema.mem_diff_of_isWithin within] at member
  -- An entity that comes or goes changes at its own path, and one that stays changes below it.
  cases held : live.get? name with
  | none =>
    cases wanted : desired.get? name with
    | none => simp [held, wanted] at member
    | some record =>
      rw [held, wanted, entityDiff_added, List.mem_singleton] at member
      exact member ▸ .inEntity schema.kind name []
  | some before =>
    cases wanted : desired.get? name with
    | none =>
      rw [held, wanted, entityDiff_removed, List.mem_singleton] at member
      exact member ▸ .inEntity schema.kind name []
    | some record =>
      rw [held, wanted, entityDiff_compared, mem_compare] at member
      obtain ⟨field, -, changed⟩ := member
      exact Field.path_of_change? changed ▸ .inEntity schema.kind name field.names

theorem Space.regular_of_mem_diff {live desired : Space} {change : Change}
    (member : change ∈ live.diff desired) : change.path.Regular := by
  rw [diff_eq_flatMap, List.mem_flatMap] at member
  obtain ⟨kind, -, member⟩ := member
  cases kind with
  | applications => exact Schema.regular_of_mem_diff member
  | services => exact Schema.regular_of_mem_diff member
  | developers => exact path_of_mem_developersDiff member ▸ .ofKind .developers

/-! ### Affected records -/

namespace Affected

theorem eq_of_tagged {tag other : String} {content too : Value}
    (same : (record [("type", .text tag), ("value", content)]).sorted =
      (record [("type", .text other), ("value", too)]).sorted) :
    tag = other ∧ content.sorted = too.sorted :=
  ⟨Value.text.inj (Option.some.inj (map_get?_of_sorted_eq same "type")),
    Option.some.inj (map_get?_of_sorted_eq same "value")⟩

theorem eq_of_sorted_eq {first second : Affected}
    (same : first.toValue.sorted = second.toValue.sorted) : first = second := by
  cases first <;> cases second
  case application.application =>
    exact congrArg _ (Application.eq_of_sorted_eq (eq_of_tagged same).2)
  case service.service => exact congrArg _ (Service.eq_of_sorted_eq (eq_of_tagged same).2)
  case manifest.manifest => exact congrArg _ (Manifest.eq_of_sorted_eq (eq_of_tagged same).2)
  case developers.developers users others =>
    have listed := (eq_of_tagged same).2
    rw [sorted_ofTextList, sorted_ofTextList] at listed
    exact congrArg _ (ofTextList_inj listed)
  -- Records of different types are told apart by the names of their types.
  all_goals exact absurd (eq_of_tagged same).1 (by decide)

theorem writable_toValue (affected : Affected) : Yaml.Writable affected.toValue := by
  have tagged {tag : String} {content : Value} (writable : Yaml.Writable content) :
      Yaml.Writable (.record [("type", .text tag), ("value", content)]) :=
    .record (List.forall_mem_cons.mpr ⟨.leaf (.text tag), List.forall_mem_singleton.mpr writable⟩)
  cases affected with
  | application app => exact tagged app.writable_toValue
  | service service => exact tagged service.writable_toValue
  | manifest manifest => exact tagged manifest.writable_fields.record
  | developers users => exact tagged (writable_ofTextList users)

end Affected

/-! ### Differences -/

theorem writable_ofText? (content : Option String) : Yaml.Writable (ofText? content) := by
  cases content with
  | none => exact .leaf .null
  | some content => exact .leaf (.text content)

namespace EntryChange

/-- The order of fields within a value makes no difference to what is read of it. -/
theorem ofValue_sorted (value : Value) : ofValue value.sorted = ofValue value := by
  simp only [ofValue, textOf_sorted, optionalOf_sorted text?_sorted]

theorem ofValue_toValue (entry : EntryChange) : ofValue entry.toValue = .ok entry := by
  obtain ⟨key, kind, before, after⟩ := entry
  cases kind <;> cases before <;> cases after <;> rfl

theorem mapM_ofValue_toValue (entries : List EntryChange) :
    (entries.map toValue).mapM ofValue = .ok entries := by
  have read : ofValue ∘ toValue = fun entry => pure (id entry) := funext ofValue_toValue
  rw [List.mapM_map, read, List.mapM_pure, List.map_id]
  rfl

theorem writable_toValue (entry : EntryChange) : Yaml.Writable entry.toValue := by
  have names : WritableFields [("key", .text entry.key), ("kind", .text entry.kind.name)] :=
    .append (writable_text _ _) (writable_text _ _)
  have texts : WritableFields [("before", ofText? entry.before), ("after", ofText? entry.after)] :=
    List.forall_mem_cons.mpr
      ⟨writable_ofText? entry.before, List.forall_mem_singleton.mpr (writable_ofText? entry.after)⟩
  exact WritableFields.record (names.append texts)

end EntryChange

namespace Difference

/-- No entry of a map is read from the order of its fields. -/
theorem bind_entries_sorted {β : Type} (value : Value) (rest : List EntryChange → Except String β) :
    (value.sorted.itemsOf "entries" >>= fun items => items.mapM EntryChange.ofValue >>= rest) =
      (value.itemsOf "entries" >>= fun items => items.mapM EntryChange.ofValue >>= rest) := by
  rw [itemsOf_sorted]
  cases value.itemsOf "entries" with
  | error message => rfl
  | ok items =>
    have each : (items.map sorted).mapM EntryChange.ofValue = items.mapM EntryChange.ofValue := by
      rw [List.mapM_map]
      exact congrArg (items.mapM ·) (funext EntryChange.ofValue_sorted)
    exact congrArg (· >>= rest) each

theorem ofValue_sorted (value : Value) : ofValue value.sorted = ofValue value := by
  simp only [ofValue, textOf_sorted, optionalOf_sorted text?_sorted, textsOf_sorted,
    bind_entries_sorted]

/-- What differs is read back from the value of a change, whatever else is in it. -/
theorem ofValue_toValue (change : Change) : ofValue change.toValue = .ok change.difference := by
  obtain ⟨path, affected, difference⟩ := change
  cases difference with
  | objectAdded => rfl
  | objectRemoved => rfl
  | value before after => cases before <;> cases after <;> rfl
  | collection added removed =>
    -- Both lists have a field of their own, which is found under its name.
    show (do return collection (← textsOf _ "added") (← textsOf _ "removed")) = _
    rw [textsOf_of_has rfl, textsOf_of_has rfl]
    rfl
  | map entries =>
    show (do return map (← (entries.map EntryChange.toValue).mapM EntryChange.ofValue)) = _
    rw [EntryChange.mapM_ofValue_toValue]
    rfl

theorem writable_fields (difference : Difference) : WritableFields difference.fields := by
  have sort (name : String) : Yaml.Writable (.text name) := .leaf (.text name)
  cases difference <;> simp only [fields, WritableFields, List.forall_mem_cons,
    List.not_mem_nil, false_implies, implies_true, and_true]
  case objectAdded => exact sort _
  case objectRemoved => exact sort _
  case value before after => exact ⟨sort _, writable_ofText? before, writable_ofText? after⟩
  case collection added removed =>
    exact ⟨sort _, writable_ofTextList added, writable_ofTextList removed⟩
  case map entries =>
    refine ⟨sort _, ?_⟩
    have each : ∀ item ∈ entries.map EntryChange.toValue, Yaml.Writable item :=
      List.forall_mem_map.mpr fun entry _ => entry.writable_toValue
    -- An empty list is written as one, so that it is no list of items.
    cases entries with
    | nil => exact .leaf .emptyList
    | cons entry rest => exact .list each

end Difference

/-! ### Changes -/

namespace Change

theorem writable_toValue (change : Change) : Yaml.Writable change.toValue :=
  WritableFields.record (.append (List.forall_mem_cons.mpr ⟨writable_ofTextList _,
    List.forall_mem_singleton.mpr change.affected.writable_toValue⟩)
    change.difference.writable_fields)

theorem textsOf_path (change : Change) : change.toValue.textsOf "path" = .ok change.path.texts := by
  obtain ⟨path, affected, difference⟩ := change
  cases difference <;> exact textsOf_of_has rfl

theorem get?_affected (change : Change) :
    change.toValue.get? "affected" = some change.affected.toValue := by
  obtain ⟨path, affected, difference⟩ := change
  cases difference <;> rfl

/-- Changes are told apart by their values, up to the order of the fields, if their paths are those
of the differ. -/
theorem eq_of_sorted_eq {first second : Change} (regular : first.path.Regular)
    (too : second.path.Regular) (same : first.toValue.sorted = second.toValue.sorted) :
    first = second := by
  -- Path, record and difference are read one by one, from values that differ in order at most.
  have texts := textsOf_path first
  rw [← textsOf_sorted, same, textsOf_sorted, textsOf_path] at texts
  have path := too.eq_of_texts_eq regular (Except.ok.inj texts)
  have affected := map_get?_of_sorted_eq same "affected"
  rw [get?_affected, get?_affected] at affected
  have affected := Affected.eq_of_sorted_eq (Option.some.inj affected)
  have difference := Difference.ofValue_toValue first
  rw [← Difference.ofValue_sorted, same, Difference.ofValue_sorted,
    Difference.ofValue_toValue] at difference
  have difference := Except.ok.inj difference
  cases first
  cases second
  exact (mk.injEq ..).mpr ⟨path.symm, affected, difference.symm⟩

/-- A change is told apart from all others with paths of this form. -/
theorem sameJson_iff {first second : Change} (regular : first.path.Regular)
    (too : second.path.Regular) : first.toValue.SameJson second.toValue ↔ first = second := by
  refine ⟨fun same => ?_, fun equal => equal ▸ .refl _⟩
  exact eq_of_sorted_eq regular too
    (same.sorted_eq first.writable_toValue second.writable_toValue)

end Change

/-! ### Output -/

/-- What is written of an operation of a plan, or of a change between spaces, determines it. That
fields of a scale or of a difference stand beside others, that some are left out, and that the steps
of a path are plain texts lets no two of them look alike. -/
theorem sameJson_iff_eq :
    (∀ first second : PlannedOperation,
      first.toValue.SameJson second.toValue ↔ first = second) ∧
    ∀ live desired earlier later : Space,
      ∀ first ∈ live.diff desired, ∀ second ∈ earlier.diff later,
        (first.toValue.SameJson second.toValue ↔ first = second) := by
  refine ⟨fun _ _ => PlannedOperation.sameJson_iff, ?_⟩
  intro live desired earlier later first member second memberToo
  exact Change.sameJson_iff (Space.regular_of_mem_diff member)
    (Space.regular_of_mem_diff memberToo)

/-- Changes in one place with one difference are told apart by the record that owns the place. -/
theorem sameJson_iff_eq_repeated :
    ∃ first ∈ Space.diff {} { developers := ["ann"] },
      ∃ second ∈ Space.diff {} { developers := ["ann", "ann"] },
        first.path = second.path ∧ first.difference = second.difference ∧
          ¬ first.toValue.SameJson second.toValue := by
  have once : ⟨.ofKind .developers, .developers ["ann"], .collection ["ann"] []⟩ ∈
      Space.diff {} { developers := ["ann"] } := by decide +kernel
  have twice : ⟨.ofKind .developers, .developers ["ann", "ann"], .collection ["ann"] []⟩ ∈
      Space.diff {} { developers := ["ann", "ann"] } := by decide +kernel
  refine ⟨_, once, _, twice, rfl, rfl, ?_⟩
  rw [sameJson_iff_eq.2 _ _ _ _ _ once _ twice]
  decide

end CloudSpace
