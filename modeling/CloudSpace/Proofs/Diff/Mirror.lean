import CloudSpace.Proofs.Diff.Exact

/-!
# Mirror images of changes

The changes from a desired space back to the live one are the mirror images of the changes from the
live space to the desired one: what comes goes, what was before is after, and what is changed below
a record carries the record that owns it on the other side. The differ compares both sides alike,
field by field, and goes through the entities in another order only.
-/
namespace CloudSpace

/-! ### Mirror images -/

def EntryChangeKind.mirror : EntryChangeKind → EntryChangeKind
  | .added => .removed
  | .removed => .added
  | .changed => .changed

def EntryChange.mirror (entry : EntryChange) : EntryChange :=
  ⟨entry.key, entry.kind.mirror, entry.after, entry.before⟩

def Difference.mirror : Difference → Difference
  | .objectAdded => .objectRemoved
  | .objectRemoved => .objectAdded
  | .value before after => .value after before
  | .collection added removed => .collection removed added
  | .map entries => .map (entries.map EntryChange.mirror)

/-- The record within an application that owns the field some steps lead to. -/
def Application.owner? (app : Application) : List Segment → Option Affected
  | [.field _] => some (.application app)
  | [.field "manifest", .field _] => some (.manifest app.manifest)
  | _ => none

def Service.owner? (service : Service) : List Segment → Option Affected
  | [.field _] => some (.service service)
  | _ => none

/-- The record of a space that owns the place a path leads to, below a whole entity. -/
def Space.owner? (space : Space) (path : Path) : Option Affected :=
  match path.segments with
  | [.kind .developers] => some (.developers space.developers)
  | .kind .applications :: .entity name :: steps => do
    (← space.applications.get? name).owner? steps
  | .kind .services :: .entity name :: steps => do (← space.services.get? name).owner? steps
  | _ => none

/-- The mirror image of a change away from a space: a record that comes or goes is the same, and
any other change carries the record that owns its place in that space. -/
def Change.mirror? (space : Space) (change : Change) : Option Change :=
  match change.difference with
  | .objectAdded | .objectRemoved => some { change with difference := change.difference.mirror }
  | difference =>
    (space.owner? change.path).map fun owner => ⟨change.path, owner, difference.mirror⟩

/-! ### Contents of fields -/

/-- Under each key, the other way round, the image changes. -/
theorem entryDelta_swap (live desired : NameMap String) (key : String) :
    entryDelta desired live key = (entryDelta live desired key).map EntryChange.mirror := by
  simp only [entryDelta]
  cases live.get? key with
  | none => cases desired.get? key <;> rfl
  | some before =>
    cases desired.get? key with
    | none => rfl
    | some after =>
      by_cases same : before = after
      · simp [same]
      · simp [same, Ne.symm same, EntryChange.mirror, EntryChangeKind.mirror]

/-- The changes of a map, the other way round, are the images of the changes. -/
theorem mapDelta_swap (live desired : NameMap String) :
    mapDelta desired live = (mapDelta live desired).map EntryChange.mirror := by
  have keys : distinctSorted (desired.keys ++ live.keys) =
      distinctSorted (live.keys ++ desired.keys) := by
    apply ascending_ext (ascending_distinctSorted _) (ascending_distinctSorted _)
    intro name
    simp only [mem_distinctSorted, List.mem_append, or_comm]
  rw [mapDelta, mapDelta, keys, List.map_filterMap]
  exact List.filterMap_congr fun key _ => entryDelta_swap live desired key

theorem valueDifference?_swap (type : ValueType) (held wanted : Option type.Carrier) :
    valueDifference? type wanted held =
      (valueDifference? type held wanted).map Difference.mirror := by
  rw [valueDifference?, valueDifference?]
  by_cases same : held = wanted
  · rw [if_pos same, if_pos same.symm, Option.map_none]
  · rw [if_neg same, if_neg (Ne.symm same)]
    rfl

theorem namesDifference?_swap (held wanted : List String) :
    namesDifference? wanted held = (namesDifference? held wanted).map Difference.mirror := by
  have swapped : collectionDelta wanted held =
      ((collectionDelta held wanted).2, (collectionDelta held wanted).1) := rfl
  simp only [namesDifference?, swapped, Bool.and_comm]
  split <;> rfl

theorem entriesDifference?_swap (held wanted : NameMap String) :
    entriesDifference? wanted held = (entriesDifference? held wanted).map Difference.mirror := by
  simp only [entriesDifference?, mapDelta_swap held wanted, List.isEmpty_map]
  split <;> rfl

/-- What differs of a field differs the other way round as the image. -/
theorem FieldType.difference?_swap (type : FieldType) (held wanted : type.Content) :
    type.difference? wanted held = (type.difference? held wanted).map Difference.mirror := by
  cases type with
  | required => exact valueDifference?_swap .text (some held) (some wanted)
  | optional type => exact valueDifference?_swap type held wanted
  | names => exact namesDifference?_swap held wanted
  | entries => exact entriesDifference?_swap held wanted

/-! ### Owners -/

theorem Application.owner?_of_mem_table : ∀ field ∈ Application.table, ∀ app : Application,
    app.owner? (field.names.map .field) = some (field.owner app) := by
  simp only [Application.table, Application.ownTable, Manifest.table, List.forall_mem_append,
    List.forall_mem_map, List.forall_mem_cons, List.not_mem_nil, false_implies, implies_true,
    and_true]
  -- One goal for each field.
  and_intros <;> exact fun _ => rfl

theorem Service.owner?_of_mem_table : ∀ field ∈ Service.table, ∀ service : Service,
    service.owner? (field.names.map .field) = some (field.owner service) := by
  simp only [Service.table, List.forall_mem_cons, List.not_mem_nil, false_implies, implies_true,
    and_true]
  and_intros <;> exact fun _ => rfl

/-- A space knows the owners of the fields of a record under its path. -/
def Schema.Owned {α : Type} (schema : Schema α) (space : Space) (path : Path) (record : α) : Prop :=
  ∀ field ∈ schema.fields, space.owner? (field.path path) = some (field.owner record)

/-- An application that a space holds is the owner of whatever its paths lead to. -/
theorem Space.owned_application {space : Space} {name : String} {app : Application}
    (held : space.applications.get? name = some app) :
    Application.schema.Owned space (.ofEntity .applications name) app := by
  intro field isField
  have below : space.owner? (field.path (.ofEntity .applications name)) =
      (space.applications.get? name).bind (·.owner? (field.names.map .field)) := rfl
  rw [below, held]
  exact Application.owner?_of_mem_table field isField app

theorem Space.owned_service {space : Space} {name : String} {service : Service}
    (held : space.services.get? name = some service) :
    Service.schema.Owned space (.ofEntity .services name) service := by
  intro field isField
  have below : space.owner? (field.path (.ofEntity .services name)) =
      (space.services.get? name).bind (·.owner? (field.names.map .field)) := rfl
  rw [below, held]
  exact Service.owner?_of_mem_table field isField service

/-! ### Changes -/

section

variable {space : Space} {change image : Change}

theorem Change.path_of_mirror? (mirrored : change.mirror? space = some image) :
    image.path = change.path := by
  rw [Change.mirror?] at mirrored
  split at mirrored
  · cases mirrored; rfl
  · cases mirrored; rfl
  · obtain ⟨_, _, rfl⟩ := Option.map_eq_some_iff.mp mirrored
    rfl

theorem Change.mirror?_of_separates {path : Path} {owner : Affected} {type : FieldType}
    {difference : Difference} {held wanted : type.Content}
    (separates : type.Separates difference held wanted) :
    Change.mirror? space ⟨path, owner, difference⟩ =
      (space.owner? path).map fun other => ⟨path, other, difference.mirror⟩ := by
  cases separates <;> rfl

variable {α : Type} {path : Path} {live desired : α}

/-- A field that changes changes the other way round, as the image says. -/
theorem Field.exists_image_of_change? {field : Field α}
    (owned : space.owner? (field.path path) = some (field.owner live))
    (changed : field.change? path live desired = some change) :
    ∃ image, field.change? path desired live = some image ∧
      change.mirror? space = some image := by
  obtain ⟨difference, differs, rfl⟩ := Option.map_eq_some_iff.mp changed
  have separates := FieldType.separates_of_difference? differs
  refine ⟨⟨field.path path, field.owner live, difference.mirror⟩, ?_, ?_⟩
  · rw [Field.change?, FieldType.difference?_swap, differs]
    rfl
  · rw [Change.mirror?_of_separates separates, owned, Option.map_some]

namespace Schema

variable {schema : Schema α}

theorem exists_image_of_mem_compare (owned : schema.Owned space path live)
    (member : change ∈ schema.compare path live desired) :
    ∃ image ∈ schema.compare path desired live, change.mirror? space = some image := by
  obtain ⟨field, isField, changed⟩ := schema.mem_compare.mp member
  obtain ⟨image, back, mirrored⟩ := Field.exists_image_of_change? (owned field isField) changed
  exact ⟨image, schema.mem_compare.mpr ⟨field, isField, back⟩, mirrored⟩

/-- Every change of an entity has its image among the changes the other way round. -/
theorem exists_image_of_mem_entityDiff {name : String} {held wanted : Option α}
    (owned : ∀ record, held = some record → schema.Owned space (.ofEntity schema.kind name) record)
    (member : change ∈ schema.entityDiff name held wanted) :
    ∃ image ∈ schema.entityDiff name wanted held, change.mirror? space = some image := by
  -- An entity that comes goes the other way round; only one that stays has changes of fields.
  cases held with
  | none =>
    cases wanted with
    | none => cases member
    | some record =>
      cases List.mem_singleton.mp member
      exact ⟨_, List.mem_singleton_self _, rfl⟩
  | some record =>
    cases wanted with
    | none =>
      cases List.mem_singleton.mp member
      exact ⟨_, List.mem_singleton_self _, rfl⟩
    | some other => exact exists_image_of_mem_compare (owned record rfl) member

/-- Every change of a section has its image among the changes the other way round. -/
theorem exists_image_of_mem_diff {live desired : NameMap α}
    (owned : ∀ name record, live.get? name = some record →
      schema.Owned space (.ofEntity schema.kind name) record)
    (member : change ∈ schema.diff live desired) :
    ∃ image ∈ schema.diff desired live, change.mirror? space = some image := by
  obtain ⟨name, within⟩ := isWithin_of_mem_diff member
  rw [mem_diff_of_isWithin within] at member
  obtain ⟨image, back, mirrored⟩ := exists_image_of_mem_entityDiff (owned name) member
  have same : image.isWithin schema.kind name = true := by
    rwa [Change.isWithin, Change.path_of_mirror? mirrored, ← Change.isWithin]
  exact ⟨image, (mem_diff_of_isWithin same).mpr back, mirrored⟩

end Schema

end

theorem exists_image_of_mem_developersDiff {live desired : Space} {change : Change}
    (member : change ∈ developersDiff live.developers desired.developers) :
    ∃ image ∈ developersDiff desired.developers live.developers,
      change.mirror? live = some image := by
  rw [developersDiff_eq, Option.mem_toList] at member
  obtain ⟨difference, differs, rfl⟩ := Option.map_eq_some_iff.mp member
  have separates : FieldType.names.Separates difference live.developers desired.developers :=
    FieldType.separates_of_difference? differs
  refine ⟨⟨.ofKind .developers, .developers live.developers, difference.mirror⟩, ?_, ?_⟩
  · rw [developersDiff_eq, namesDifference?_swap, differs]
    exact List.mem_singleton_self _
  · rw [Change.mirror?_of_separates separates]
    rfl

theorem exists_image_of_mem_sectionDiff {live desired : Space} {change : Change} {kind : EntityKind}
    (member : change ∈ live.sectionDiff desired kind) :
    ∃ image ∈ desired.sectionDiff live kind, change.mirror? live = some image := by
  cases kind with
  | applications =>
    exact Schema.exists_image_of_mem_diff (fun _ _ held => Space.owned_application held) member
  | services =>
    exact Schema.exists_image_of_mem_diff (fun _ _ held => Space.owned_service held) member
  | developers => exact exists_image_of_mem_developersDiff member

theorem exists_image_of_mem_spaceDiff {live desired : Space} {change : Change}
    (member : change ∈ live.diff desired) :
    ∃ image ∈ desired.diff live, change.mirror? live = some image := by
  rw [diff_eq_flatMap, List.mem_flatMap] at member
  obtain ⟨kind, isKind, member⟩ := member
  obtain ⟨image, back, mirrored⟩ := exists_image_of_mem_sectionDiff member
  refine ⟨image, ?_, mirrored⟩
  rw [diff_eq_flatMap, List.mem_flatMap]
  exact ⟨kind, isKind, back⟩

/-- No two changes have the same image, since images are at the paths of their changes. -/
theorem nodup_images (live desired : Space) :
    ((live.diff desired).map (Change.mirror? live)).Nodup := by
  apply List.Nodup.of_map (Option.map Change.path)
  have paths : ((live.diff desired).map (Change.mirror? live)).map (Option.map Change.path) =
      ((live.diff desired).map (·.path)).map some := by
    rw [List.map_map, List.map_map]
    apply List.map_congr_left
    intro change member
    obtain ⟨image, _, mirrored⟩ := exists_image_of_mem_spaceDiff member
    simp only [Function.comp_apply, mirrored, Option.map_some, Change.path_of_mirror? mirrored]
  rw [paths]
  exact (nodup_paths_diff live desired).map (fun _ _ => Option.some.inj)

/-- The changes back to the live space are the mirror images of those to the desired one, up to
their order. -/
theorem diff_swap_perm (live desired : Space) :
    ((desired.diff live).map some).Perm ((live.diff desired).map (Change.mirror? live)) := by
  have distinct : (desired.diff live).Nodup := (nodup_paths_diff desired live).of_map _
  rw [List.perm_ext_iff_of_nodup (distinct.map (fun _ _ => Option.some.inj))
    (nodup_images live desired)]
  intro mirrored
  simp only [List.mem_map]
  constructor
  · rintro ⟨back, member, rfl⟩
    -- The image of the image of a change back is in its place, where there is no other change.
    obtain ⟨change, forth, here⟩ := exists_image_of_mem_spaceDiff member
    obtain ⟨image, again, mirrored⟩ := exists_image_of_mem_spaceDiff forth
    have place : image.path = back.path :=
      (Change.path_of_mirror? mirrored).trans (Change.path_of_mirror? here)
    have same := List.inj_on_of_nodup_map (nodup_paths_diff desired live) again member place
    exact ⟨change, forth, same ▸ mirrored⟩
  · rintro ⟨change, forth, rfl⟩
    obtain ⟨image, back, mirrored⟩ := exists_image_of_mem_spaceDiff forth
    exact ⟨image, back, mirrored.symm⟩

/-- An entry that is new is one that goes, and the manifest is that of the other side. -/
example :
    let live : Space := { applications := .ofList [("web", {})] }
    let wanted : Manifest := { environmentVariables := .ofList [("A", "1")] }
    let desired : Space := { applications := .ofList [("web", { manifest := wanted })] }
    let path := ((Path.ofEntity .applications "web").child "manifest").child "environmentVariables"
    live.diff desired = [⟨path, .manifest wanted, .map [⟨"A", .added, none, some "1"⟩]⟩] ∧
    (live.diff desired).map (Change.mirror? live) =
      [some ⟨path, .manifest {}, .map [⟨"A", .removed, some "1", none⟩]⟩] := by
  decide +kernel

end CloudSpace
