import CloudSpace.Proofs.Diff.FieldType
import Mathlib.Data.List.Nodup

/-!
# Records as fields

The records of a keyed section as tables of fields. Each field can be read and set without any
other field changing, the differ compares the records field by field in the order of the table,
and records whose fields all agree are the same up to the order and repetition of names.
-/
namespace CloudSpace

/-! ### Fields and tables -/

/-- A field of a record, which can be read and set. -/
structure Field (α : Type) where
  /-- The steps from the record to the field. -/
  names : List String
  type : FieldType
  get : α → type.Content
  set : α → type.Content → α
  /-- The record that a change of the field carries. -/
  owner : α → Affected
  nonempty : names ≠ [] := by decide
  get_set : ∀ record content, get (set record content) = content := by exact fun _ _ => rfl

namespace Field

variable {α : Type}

/-- The path of a field of the record at a path. -/
def path (field : Field α) (record : Path) : Path :=
  ⟨record.segments ++ field.names.map .field⟩

def Agrees (field : Field α) (first second : α) : Prop :=
  field.type.Agrees (field.get first) (field.get second)

/-- The change of a field, if it differs. -/
def change? (field : Field α) (record : Path) (live desired : α) : Option Change :=
  (field.type.difference? (field.get live) (field.get desired)).map fun difference =>
    ⟨field.path record, field.owner desired, difference⟩

/-- Fields in different places, of which neither is changed with the other. -/
structure Apart (first second : Field α) : Prop where
  names : first.names ≠ second.names
  left : ∀ record content, first.get (second.set record content) = first.get record
  right : ∀ record content, second.get (first.set record content) = second.get record

theorem path_inj {first second : Field α} {record : Path}
    (same : first.path record = second.path record) : first.names = second.names := by
  have segments := List.append_cancel_left (Path.mk.inj same)
  exact List.map_injective_iff.mpr (fun _ _ equal => Segment.field.inj equal) segments

theorem path_of_change? {field : Field α} {record : Path} {live desired : α} {change : Change}
    (changed : field.change? record live desired = some change) :
    change.path = field.path record := by
  obtain ⟨_, _, rfl⟩ := Option.map_eq_some_iff.mp changed
  rfl

end Field

/-- The records of a keyed section, and how the differ walks over them. -/
structure Schema (α : Type) where
  kind : EntityKind
  wrap : α → Affected
  unwrap? : Affected → Option α
  fields : List (Field α)
  compare : Path → α → α → List Change
  /-- Whether two records count as the same. -/
  Agrees : α → α → Prop
  unwrap?_wrap : ∀ record, unwrap? (wrap record) = some record
  apart : fields.Pairwise Field.Apart
  compare_eq : ∀ path live desired,
    compare path live desired = fields.filterMap (·.change? path live desired)
  agrees_iff : ∀ first second, Agrees first second ↔ ∀ field ∈ fields, field.Agrees first second

namespace Schema

variable {α : Type} (schema : Schema α) {path : Path} {live desired : α} {change : Change}

theorem mem_compare : change ∈ schema.compare path live desired ↔
    ∃ field ∈ schema.fields, field.change? path live desired = some change := by
  rw [schema.compare_eq, List.mem_filterMap]

theorem field_eq_of_names {first second : Field α} (isFirst : first ∈ schema.fields)
    (isSecond : second ∈ schema.fields) (same : first.names = second.names) : first = second := by
  have distinct : (schema.fields.map Field.names).Nodup :=
    List.pairwise_map.mpr (schema.apart.imp fun apart => apart.names)
  exact List.inj_on_of_nodup_map distinct isFirst isSecond same

/-- At the path of a field there is the change of that field and no other. -/
theorem mem_compare_at {field : Field α} (isField : field ∈ schema.fields)
    (here : change.path = field.path path) :
    change ∈ schema.compare path live desired ↔ field.change? path live desired = some change := by
  rw [mem_compare]
  constructor
  · rintro ⟨other, isOther, changed⟩
    have same := Field.path_inj ((Field.path_of_change? changed).symm.trans here)
    exact schema.field_eq_of_names isOther isField same ▸ changed
  · exact fun changed => ⟨field, isField, changed⟩

/-- No two changes of one record are at the same path. -/
theorem nodup_compare (path : Path) (live desired : α) :
    ((schema.compare path live desired).map (·.path)).Nodup := by
  rw [schema.compare_eq, List.nodup_iff_pairwise_ne, List.pairwise_map, List.pairwise_filterMap]
  apply schema.apart.imp
  intro first second apart change changed other changedOther same
  rw [Field.path_of_change? changed, Field.path_of_change? changedOther] at same
  exact apart.names (Field.path_inj same)

theorem compare_eq_nil_iff :
    schema.compare path live desired = [] ↔ schema.Agrees live desired := by
  rw [schema.compare_eq, List.filterMap_eq_nil_iff, schema.agrees_iff]
  simp only [Field.change?, Option.map_eq_none_iff, FieldType.difference?_eq_none_iff,
    Field.Agrees]

end Schema

/-! ### The differ as a walk over a table -/

/-- A change of a value is no change where it is the same, and one with both texts where it is not.
-/
theorem toList_map_valueDifference? (type : ValueType) (live desired : Option type.Carrier)
    (change : Difference → Change) :
    ((valueDifference? type live desired).map change).toList =
      if live = desired then []
      else [change (.value (live.map type.render) (desired.map type.render))] := by
  rw [valueDifference?]
  split <;> rfl

theorem toList_map_namesDifference? (live desired : List String) (change : Difference → Change) :
    ((namesDifference? live desired).map change).toList =
      let (added, removed) := collectionDelta live desired
      if added.isEmpty && removed.isEmpty then [] else [change (.collection added removed)] := by
  simp only [namesDifference?]
  split <;> rfl

theorem toList_map_entriesDifference? (live desired : NameMap String)
    (change : Difference → Change) :
    ((entriesDifference? live desired).map change).toList =
      let entries := mapDelta live desired
      if entries.isEmpty then [] else [change (.map entries)] := by
  simp only [entriesDifference?]
  split <;> rfl

/-! ### Manifests -/

/-- Manifests that differ in the order and repetition of routes and bindings at most. -/
structure Manifest.Agrees (first second : Manifest) : Prop where
  others : { first with routes := [], services := [] } =
    { second with routes := [], services := [] }
  routes : SameMembers first.routes second.routes
  services : SameMembers first.services second.services

theorem Manifest.Agrees.symm {first second : Manifest} (agrees : first.Agrees second) :
    second.Agrees first :=
  ⟨agrees.others.symm, fun name => (agrees.routes name).symm,
    fun name => (agrees.services name).symm⟩

theorem Manifest.Agrees.trans {first second third : Manifest} (agrees : first.Agrees second)
    (further : second.Agrees third) : first.Agrees third :=
  ⟨agrees.others.trans further.others,
    fun name => (agrees.routes name).trans (further.routes name),
    fun name => (agrees.services name).trans (further.services name)⟩

def Manifest.table : List (Field Manifest) := [
  .mk ["buildpack"] (.optional .text) (·.buildpack) ({ · with buildpack := · }) .manifest,
  .mk ["command"] (.optional .text) (·.command) ({ · with command := · }) .manifest,
  .mk ["disk"] (.optional .word) (·.disk) ({ · with disk := · }) .manifest,
  .mk ["dockerImage"] (.optional .text) (·.dockerImage) ({ · with dockerImage := · }) .manifest,
  .mk ["dockerUsername"] (.optional .text) (·.dockerUsername)
    ({ · with dockerUsername := · }) .manifest,
  .mk ["environmentVariables"] .entries (·.environmentVariables)
    ({ · with environmentVariables := · }) .manifest,
  .mk ["healthCheckHttpEndpoint"] (.optional .text) (·.healthCheckHttpEndpoint)
    ({ · with healthCheckHttpEndpoint := · }) .manifest,
  .mk ["healthCheckType"] (.optional .healthCheck) (·.healthCheckType)
    ({ · with healthCheckType := · }) .manifest,
  .mk ["instances"] (.optional .word) (·.instances) ({ · with instances := · }) .manifest,
  .mk ["memory"] (.optional .word) (·.memory) ({ · with memory := · }) .manifest,
  .mk ["noRoute"] (.optional .flag) (·.noRoute) ({ · with noRoute := · }) .manifest,
  .mk ["randomRoute"] (.optional .flag) (·.randomRoute) ({ · with randomRoute := · }) .manifest,
  .mk ["routePath"] (.optional .text) (·.routePath) ({ · with routePath := · }) .manifest,
  .mk ["routes"] .names (·.routes) ({ · with routes := · }) .manifest,
  .mk ["services"] .names (·.services) ({ · with services := · }) .manifest,
  .mk ["stack"] (.optional .text) (·.stack) ({ · with stack := · }) .manifest,
  .mk ["timeout"] (.optional .word) (·.timeout) ({ · with timeout := · }) .manifest]

namespace Manifest

theorem apart_table : table.Pairwise Field.Apart := by
  simp only [table, List.pairwise_cons, List.forall_mem_cons, List.Pairwise.nil, and_true,
    List.not_mem_nil, false_implies, implies_true]
  -- One goal for each pair of fields: setting one leaves the projection to the other.
  repeat' apply And.intro
  all_goals exact ⟨by decide, fun _ _ => rfl, fun _ _ => rfl⟩

/-- The differ goes through the fields of a manifest in the order of the table. -/
theorem diff_eq (path : Path) (live desired : Manifest) :
    Manifest.diff path live desired = table.filterMap (·.change? path live desired) := by
  rw [List.filterMap_eq_flatMap_toList]
  simp only [Manifest.diff, Owner.text, Owner.word, Owner.flag, Owner.value, Owner.collection,
    Owner.map, table, List.flatMap_cons, List.flatMap_nil, List.append_nil, List.append_assoc,
    Field.change?, FieldType.difference?, toList_map_valueDifference?,
    toList_map_namesDifference?, toList_map_entriesDifference?]
  -- Both sides are now one conditional for each field, in the same order.
  rfl

/-- Manifests agree exactly where each of their fields does. -/
theorem agrees_iff (first second : Manifest) :
    first.Agrees second ↔ ∀ field ∈ table, field.Agrees first second := by
  simp only [table, List.forall_mem_cons, Field.Agrees, FieldType.Agrees, List.not_mem_nil,
    false_implies, implies_true, and_true]
  constructor
  · rintro ⟨others, routes, services⟩
    rw [mk.injEq] at others
    simp only [others, routes, services, and_self]
  · intro fields
    refine ⟨?_, ?_, ?_⟩
    · simp only [fields]
    · simp only [fields]
    · simp only [fields]

end Manifest

/-! ### Applications -/

/-- A field of a manifest as a field of the application. -/
def Field.inManifest (field : Field Manifest) : Field Application where
  names := "manifest" :: field.names
  type := field.type
  get app := field.get app.manifest
  set app content := { app with manifest := field.set app.manifest content }
  owner app := field.owner app.manifest
  nonempty := List.cons_ne_nil _ _
  get_set app := field.get_set app.manifest

/-- Applications that differ in the order and repetition of names at most. -/
structure Application.Agrees (first second : Application) : Prop where
  path : first.path = second.path
  metadata : first.metadata = second.metadata
  manifest : first.manifest.Agrees second.manifest

theorem Application.Agrees.symm {first second : Application} (agrees : first.Agrees second) :
    second.Agrees first :=
  ⟨agrees.path.symm, agrees.metadata.symm, agrees.manifest.symm⟩

theorem Application.Agrees.trans {first second third : Application} (agrees : first.Agrees second)
    (further : second.Agrees third) : first.Agrees third :=
  ⟨agrees.path.trans further.path, agrees.metadata.trans further.metadata,
    agrees.manifest.trans further.manifest⟩

namespace Application

def ownTable : List (Field Application) := [
  .mk ["path"] (.optional .text) (·.path) ({ · with path := · }) .application,
  .mk ["meta"] (.optional .text) (·.metadata) ({ · with metadata := · }) .application]

def table : List (Field Application) := ownTable ++ Manifest.table.map Field.inManifest

/-- The fields of an application are apart, those of its manifest included. -/
theorem apart_table : table.Pairwise Field.Apart := by
  rw [table, List.pairwise_append]
  refine ⟨?_, ?_, ?_⟩
  · simp only [ownTable, List.pairwise_cons, List.forall_mem_cons, List.Pairwise.nil, and_true,
      List.not_mem_nil, false_implies, implies_true]
    exact ⟨by decide, fun _ _ => rfl, fun _ _ => rfl⟩
  · rw [List.pairwise_map]
    refine Manifest.apart_table.imp fun {first second} apart => ⟨?_, ?_, ?_⟩
    · simpa [Field.inManifest] using apart.names
    · exact fun app content => apart.left app.manifest content
    · exact fun app content => apart.right app.manifest content
  -- A field beside the manifest is none of its fields.
  · simp only [ownTable, List.forall_mem_cons, List.forall_mem_map, List.not_mem_nil,
      false_implies, implies_true, and_true]
    exact ⟨fun _ _ => ⟨by simp [Field.inManifest], fun _ _ => rfl, fun _ _ => rfl⟩,
      fun _ _ => ⟨by simp [Field.inManifest], fun _ _ => rfl, fun _ _ => rfl⟩⟩

/-- The differ goes through the fields of an application in the order of the table. -/
theorem diff_eq (path : Path) (live desired : Application) :
    Application.diff path live desired = table.filterMap (·.change? path live desired) := by
  have own : ownTable.filterMap (·.change? path live desired) =
      Owner.text ⟨path, .application desired⟩ "path" live.path desired.path ++
        Owner.text ⟨path, .application desired⟩ "meta" live.metadata desired.metadata := by
    rw [List.filterMap_eq_flatMap_toList]
    simp only [Owner.text, Owner.value, ownTable, List.flatMap_cons, List.flatMap_nil,
      List.append_nil, Field.change?, FieldType.difference?, toList_map_valueDifference?]
    rfl
  -- Inside the manifest the walk is that over a manifest, from one step further down.
  have inManifest (field : Field Manifest) : field.inManifest.change? path live desired =
      field.change? (path.child "manifest") live.manifest desired.manifest := by
    simp only [Field.change?, Field.inManifest, Field.path, Path.child, List.map_cons,
      List.append_assoc, List.singleton_append]
  rw [Application.diff, table, List.filterMap_append, own, List.filterMap_map, Manifest.diff_eq]
  exact congrArg _ (List.filterMap_congr fun field _ => (inManifest field).symm)

/-- Applications agree exactly where each of their fields does. -/
theorem agrees_iff (first second : Application) :
    first.Agrees second ↔ ∀ field ∈ table, field.Agrees first second := by
  simp only [table, ownTable, List.forall_mem_append, List.forall_mem_cons, List.forall_mem_map,
    List.not_mem_nil, false_implies, implies_true, and_true]
  constructor
  · rintro ⟨path, metadata, manifest⟩
    exact ⟨⟨path, metadata⟩, (Manifest.agrees_iff _ _).mp manifest⟩
  · rintro ⟨⟨path, metadata⟩, manifest⟩
    exact ⟨path, metadata, (Manifest.agrees_iff _ _).mpr manifest⟩

def schema : Schema Application where
  kind := .applications
  wrap := .application
  unwrap? | .application app => some app | _ => none
  fields := table
  compare := Application.diff
  Agrees := Application.Agrees
  unwrap?_wrap _ := rfl
  apart := apart_table
  compare_eq := diff_eq
  agrees_iff := agrees_iff

end Application

/-! ### Services -/

/-- Service instances that differ in the order and repetition of tags at most. -/
structure Service.Agrees (first second : Service) : Prop where
  others : { first with tags := [] } = { second with tags := [] }
  tags : SameMembers first.tags second.tags

namespace Service

def table : List (Field Service) := [
  .mk ["service"] .required (·.offering) ({ · with offering := · }) .service,
  .mk ["plan"] .required (·.plan) ({ · with plan := · }) .service,
  .mk ["tags"] .names (·.tags) ({ · with tags := · }) .service,
  .mk ["params"] .entries (·.params) ({ · with params := · }) .service]

theorem apart_table : table.Pairwise Field.Apart := by
  simp only [table, List.pairwise_cons, List.forall_mem_cons, List.Pairwise.nil, and_true,
    List.not_mem_nil, false_implies, implies_true]
  repeat' apply And.intro
  all_goals exact ⟨by decide, fun _ _ => rfl, fun _ _ => rfl⟩

/-- The differ goes through the fields of a service in the order of the table. -/
theorem diff_eq (path : Path) (live desired : Service) :
    Service.diff path live desired = table.filterMap (·.change? path live desired) := by
  rw [List.filterMap_eq_flatMap_toList]
  simp only [Service.diff, Owner.text, Owner.value, Owner.collection, Owner.map, table,
    List.flatMap_cons, List.flatMap_nil, List.append_nil, List.append_assoc, Field.change?,
    FieldType.difference?, toList_map_valueDifference?, toList_map_namesDifference?,
    toList_map_entriesDifference?]
  rfl

/-- Services agree exactly where each of their fields does. -/
theorem agrees_iff (first second : Service) :
    first.Agrees second ↔ ∀ field ∈ table, field.Agrees first second := by
  simp only [table, List.forall_mem_cons, Field.Agrees, FieldType.Agrees, List.not_mem_nil,
    false_implies, implies_true, and_true]
  constructor
  · rintro ⟨others, tags⟩
    obtain ⟨offering, plan, _, params⟩ := (mk.injEq ..).mp others
    exact ⟨offering, plan, tags, params⟩
  · rintro ⟨offering, plan, tags, params⟩
    exact ⟨(mk.injEq ..).mpr ⟨offering, plan, rfl, params⟩, tags⟩

def schema : Schema Service where
  kind := .services
  wrap := .service
  unwrap? | .service service => some service | _ => none
  fields := table
  compare := Service.diff
  Agrees := Service.Agrees
  unwrap?_wrap _ := rfl
  apart := apart_table
  compare_eq := diff_eq
  agrees_iff := agrees_iff

end Service

/-! ### Spaces -/

/-- Spaces that differ in the order and repetition of routes, bindings, tags and developers at
most. -/
structure Space.Agrees (first second : Space) : Prop where
  applications : ∀ name, Option.Rel Application.Agrees (first.applications.get? name)
    (second.applications.get? name)
  services : ∀ name, Option.Rel Service.Agrees (first.services.get? name)
    (second.services.get? name)
  developers : SameMembers first.developers second.developers

end CloudSpace
