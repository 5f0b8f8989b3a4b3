import CloudSpace.Proofs.Diff.Schema
import CloudSpace.Proofs.Json.Order
import CloudSpace.Proofs.Record.Writing

/-!
# Records are told apart

A record says by name what each of its fields holds, and a field that is left out says that it holds
nothing. So records that say the same are the same, whatever the order of what is said.
-/
namespace CloudSpace

open Value

/-! ### Fields -/

namespace Value

theorem get?_nil (name : String) : (record []).get? name = none := rfl

/-- The first field counts where no later one has its name. -/
theorem get?_cons (key name : String) (content : Value) (fields : List (String × Value)) :
    (record ((key, content) :: fields)).get? name =
      ((record fields).get? name).or (if key = name then some content else none) := by
  rw [← get?_optional key name (some content), ← get?_append]
  rfl

end Value

/-- A value of a setting as data. -/
def ValueType.encode : (type : ValueType) → type.Carrier → Value
  | text, (content : String) => .text content
  | word, (number : UInt32) => .int number.toNat
  | flag, (raised : Bool) => .bool raised
  | healthCheck, (check : HealthCheckType) => .text check.name

/-- What a field says; nothing where it is left out. -/
def FieldType.encode? : (type : FieldType) → type.Content → Option Value
  | required, (content : String) => some (.text content)
  | optional type, content => content.map type.encode
  | names, (listed : List String) => if listed = [] then none else some (ofTextList listed)
  | entries, (map : NameMap String) =>
    if map.entries = [] then none else some (ofTexts map.entries)

theorem ofTextList_inj {first second : List String} (same : ofTextList first = ofTextList second) :
    first = second :=
  List.map_injective_iff.mpr (fun _ _ => Value.text.inj) (Value.list.inj same)

theorem ofTexts_inj {first second : NameMap String}
    (same : ofTexts first.entries = ofTexts second.entries) : first = second := by
  apply NameMap.ext_get?
  intro name
  have held := congrArg (·.get? name) same
  simp only [get?_ofTexts] at held
  exact Option.map_injective (fun _ _ => Value.text.inj) held

namespace ValueType

/-- No carrier has fields that could be sorted but maps, which are sorted. -/
theorem sorted_encode (type : ValueType) (value : type.Carrier) :
    (type.encode value).sorted = type.encode value := by
  cases type <;> rfl

/-- A value of one type is told by what it is encoded as. -/
theorem encode_inj {type : ValueType} {first second : type.Carrier}
    (same : type.encode first = type.encode second) : first = second := by
  cases type with
  | text => exact Value.text.inj same
  | word => exact UInt32.toNat_inj.mp (Int.ofNat.inj (Value.int.inj same))
  | flag => exact Value.bool.inj same
  | healthCheck =>
    have named := congrArg HealthCheckType.ofName? (Value.text.inj same)
    rw [HealthCheckType.ofName?_name, HealthCheckType.ofName?_name] at named
    exact Option.some.inj named

end ValueType

namespace FieldType

/-- What a field holds is written without anything to sort. -/
theorem sorted_encode? (type : FieldType) (content : type.Content) :
    (type.encode? content).map sorted = type.encode? content := by
  -- Lists and maps are left out when they are empty.
  cases type with
  | required => rfl
  | optional type =>
    cases content with
    | none => rfl
    | some value => exact congrArg some (type.sorted_encode value)
  | names =>
    rw [encode?]
    split
    · rfl
    · exact congrArg some (sorted_ofTextList content)
  | entries =>
    rw [encode?]
    split
    · rfl
    · exact congrArg some (sorted_ofTexts content)

/-- A field that is left out holds nothing, and so do no others. -/
theorem encode?_inj {type : FieldType} {first second : type.Content}
    (same : type.encode? first = type.encode? second) : first = second := by
  cases type with
  | required => exact Value.text.inj (Option.some.inj same)
  | optional type => exact Option.map_injective (fun _ _ => ValueType.encode_inj) same
  | names =>
    simp only [encode?] at same
    -- A list is left out just if it is empty, and so none that is said is like one left out.
    split at same <;> split at same
    · simp [*]
    · cases same
    · cases same
    · exact ofTextList_inj (Option.some.inj same)
  | entries =>
    simp only [encode?] at same
    split at same <;> split at same
    · exact NameMap.ext_entries (by simp [*])
    · cases same
    · cases same
    · exact ofTexts_inj (Option.some.inj same)

end FieldType

/-- What a value says of a record under the name of a field is what the field holds. -/
def Field.SaidBy {α : Type} (field : Field α) (record : α) (value : Value) : Prop :=
  value.get? (field.names.headD "") = field.type.encode? (field.get record)

/-- Records of which the same is said have the same in each field that is said. -/
theorem Field.get_eq_of_saidBy {α : Type} {fields : List (Field α)} {encode : α → Value}
    (said : ∀ record, ∀ field ∈ fields, field.SaidBy record (encode record)) {first second : α}
    (same : (encode first).sorted = (encode second).sorted) :
    ∀ field ∈ fields, field.get first = field.get second := by
  intro field member
  have told := map_get?_of_sorted_eq same (field.names.headD "")
  rw [said first field member, said second field member, FieldType.sorted_encode?,
    FieldType.sorted_encode?] at told
  exact FieldType.encode?_inj told

/-! ### Manifests -/

namespace Manifest

theorem saidBy_toValue (m : Manifest) : ∀ field ∈ table, field.SaidBy m m.toValue := by
  simp only [table, List.forall_mem_cons, List.not_mem_nil, false_implies, implies_true, and_true,
    Field.SaidBy, List.headD_cons, toValue, fields, get?_append, get?_fieldOfText?,
    get?_fieldOfWord?, get?_fieldOfBool?, get?_fieldOfTextList, get?_fieldOfTexts,
    String.reduceEq, ↓reduceIte, Option.none_or, Option.or_none, Option.map_map]
  -- One goal for each field, which is all that is left of the record under its name.
  repeat' apply And.intro
  all_goals rfl

theorem ext_table {first second : Manifest}
    (same : ∀ field ∈ table, field.get first = field.get second) : first = second := by
  simp only [table, List.forall_mem_cons, List.not_mem_nil, false_implies, implies_true,
    and_true] at same
  cases first
  cases second
  simpa only [mk.injEq] using same

/-- Manifests that are written alike up to order are the same. -/
theorem eq_of_sorted_eq {first second : Manifest}
    (same : first.toValue.sorted = second.toValue.sorted) : first = second :=
  ext_table (Field.get_eq_of_saidBy saidBy_toValue same)

end Manifest

/-! ### Applications -/

namespace Application

theorem saidBy_toValue (app : Application) : ∀ field ∈ ownTable, field.SaidBy app app.toValue := by
  simp only [ownTable, List.forall_mem_cons, List.not_mem_nil, false_implies, implies_true,
    and_true, Field.SaidBy, List.headD_cons, toValue, get?_append, get?_fieldOfText?, get?_cons,
    get?_nil, String.reduceEq, ↓reduceIte, Option.none_or, Option.or_none]
  exact ⟨rfl, rfl⟩

theorem get?_manifest (app : Application) :
    app.toValue.get? "manifest" = some app.manifest.toValue := by
  rw [toValue, get?_append]
  rfl

/-- Applications that are written alike up to order are the same. -/
theorem eq_of_sorted_eq {first second : Application}
    (same : first.toValue.sorted = second.toValue.sorted) : first = second := by
  have own := Field.get_eq_of_saidBy saidBy_toValue same
  -- The manifest is a record in a field, and its fields are compared in their turn.
  have manifest := map_get?_of_sorted_eq same "manifest"
  rw [get?_manifest, get?_manifest] at manifest
  have manifest := Manifest.eq_of_sorted_eq (Option.some.inj manifest)
  simp only [ownTable, List.forall_mem_cons] at own
  obtain ⟨path, metadata, -⟩ := own
  cases first
  cases second
  exact (mk.injEq ..).mpr ⟨path, metadata, manifest⟩

end Application

/-! ### Services -/

namespace Service

theorem saidBy_toValue (service : Service) :
    ∀ field ∈ table, field.SaidBy service service.toValue := by
  simp only [table, List.forall_mem_cons, List.not_mem_nil, false_implies, implies_true, and_true,
    Field.SaidBy, List.headD_cons, toValue, get?_append, get?_fieldOfTextList, get?_fieldOfTexts,
    get?_cons, get?_nil, String.reduceEq, ↓reduceIte, Option.none_or, Option.or_none]
  exact ⟨rfl, rfl, rfl, rfl⟩

theorem ext_table {first second : Service}
    (same : ∀ field ∈ table, field.get first = field.get second) : first = second := by
  simp only [table, List.forall_mem_cons, List.not_mem_nil, false_implies, implies_true,
    and_true] at same
  cases first
  cases second
  simpa only [mk.injEq] using same

theorem eq_of_sorted_eq {first second : Service}
    (same : first.toValue.sorted = second.toValue.sorted) : first = second :=
  ext_table (Field.get_eq_of_saidBy saidBy_toValue same)

theorem writable_toValue (service : Service) : Yaml.Writable service.toValue := by
  have names : WritableFields [("service", .text service.offering), ("plan", .text service.plan)] :=
    .append (writable_text _ _) (writable_text _ _)
  exact WritableFields.record (.append (.append names (writable_fieldOfTextList _ _))
    (writable_fieldOfTexts _ _))

end Service

end CloudSpace
