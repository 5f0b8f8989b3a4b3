import CloudSpace.Proofs.Diff.Exact
import CloudSpace.Proofs.Plan.Entity

/-!
# Updates of applications

The plan for an application that is both live and desired, told from the two records: a call for
each variable and each binding that differs, a scaling to the sizes that differ, a health check, and
a warning for every other field that differs. No field that differs is passed over in silence.
-/
namespace CloudSpace

instance {α : Type} (field : Field α) (first second : α) : Decidable (field.Agrees first second) :=
  decidable_of_iff _ FieldType.difference?_eq_none_iff

theorem change?_eq_none_iff {α : Type} {field : Field α} {record : Path} {live desired : α} :
    field.change? record live desired = none ↔ field.Agrees live desired := by
  rw [Field.change?, Option.map_eq_none_iff, FieldType.difference?_eq_none_iff]
  rfl

namespace Plan

/-! ### What an update comes to -/

namespace Dimension

def all : List Dimension := [disk, instances, memory]

def sizeOf (dimension : Dimension) (scale : Scale) : Option UInt32 :=
  match dimension with
  | instances => scale.instances
  | memory => scale.memory
  | disk => scale.disk

end Dimension

/-- The call that gives a variable its desired value, or takes it away if it is to have none. -/
def variableCall (name : String) (desired : Manifest) (key : String) : Call :=
  match desired.environmentVariables.get? key with
  | some value => .addEnvironmentVariable name key value
  | none => .removeEnvironmentVariable name key

def SameCheck (live desired : Manifest) : Prop :=
  live.healthCheckType = desired.healthCheckType ∧
    live.healthCheckHttpEndpoint = desired.healthCheckHttpEndpoint

instance (live desired : Manifest) : Decidable (SameCheck live desired) :=
  inferInstanceAs (Decidable (_ ∧ _))

/-- Calls that bring an application from one manifest to another, as far as calls can. -/
def Updates (name : String) (live desired : Manifest) (calls : List Call) : Prop :=
  ∃ (keys bound unbound : List String) (scale : Scale),
    ListsExactly keys (fun key =>
      live.environmentVariables.get? key ≠ desired.environmentVariables.get? key) ∧
    ListsExactly bound (fun service => service ∈ desired.services ∧ service ∉ live.services) ∧
    ListsExactly unbound (fun service => service ∈ live.services ∧ service ∉ desired.services) ∧
    (∀ dimension size, Dimension.sizeOf dimension scale = some size ↔
      dimension.sizeIn desired = some size ∧ dimension.sizeIn live ≠ some size) ∧
    calls = keys.map (variableCall name desired) ++ bound.map (.bindService name) ++
      unbound.map (.unbindService name) ++
      (if scale = {} then [] else [.scaleApplication name scale]) ++
      (if SameCheck live desired then [] else desired.healthCheckType.toList.map fun type =>
        .setHealthCheck name type desired.healthCheckHttpEndpoint)

/-- The fields that calls change, by their names. -/
def callFields : List (List String) :=
  ["disk", "environmentVariables", "healthCheckHttpEndpoint", "healthCheckType", "instances",
    "memory", "services"].map fun field => ["manifest", field]

def fixedFields : List (Field Application) :=
  Application.table.filter fun field => field.names ∉ callFields

example : fixedFields.map (·.names) = [["path"], ["meta"], ["manifest", "buildpack"],
    ["manifest", "command"], ["manifest", "dockerImage"], ["manifest", "dockerUsername"],
    ["manifest", "noRoute"], ["manifest", "randomRoute"], ["manifest", "routePath"],
    ["manifest", "routes"], ["manifest", "stack"], ["manifest", "timeout"]] := by decide

def Unsets (live desired : Manifest) (dimension : Dimension) : Prop :=
  dimension.sizeIn live ≠ none ∧ dimension.sizeIn desired = none

instance (live desired : Manifest) (dimension : Dimension) :
    Decidable (Unsets live desired dimension) :=
  inferInstanceAs (Decidable (_ ∧ _))

def fixedWarning (name : String) (field : Field Application) : String :=
  let path := field.path (.ofEntity .applications name)
  s!"Application '{name}': no remote call changes {path.text}, skipping"

def unsetWarning (name : String) (dimension : Dimension) : String :=
  s!"Application '{name}': {dimension.name} cannot be unset, skipping"

def checkWarning (name : String) : String :=
  s!"Application '{name}': health check type cannot be unset, skipping"

/-- The warnings about an update: one for each fixed field that differs, one for each size that is
only live, and one for a health check that is to have no type. -/
def updateWarnings (name : String) (live desired : Application) : List String :=
  (fixedFields.filter fun field => ¬ field.Agrees live desired).map (fixedWarning name) ++
  (Dimension.all.filter (Unsets live.manifest desired.manifest)).map (unsetWarning name) ++
  if ¬ SameCheck live.manifest desired.manifest ∧ desired.manifest.healthCheckType = none then
    [checkWarning name] else []

/-- The fields that a call brings to their desired contents. -/
def settledFields : Call → List (List String)
  | .addEnvironmentVariable .. | .removeEnvironmentVariable .. =>
    [["manifest", "environmentVariables"]]
  | .bindService .. | .unbindService .. => [["manifest", "services"]]
  | .scaleApplication _ scale => Dimension.all.filterMap fun dimension =>
    (dimension.sizeOf scale).map fun _ => ["manifest", dimension.name]
  | .setHealthCheck .. =>
    [["manifest", "healthCheckType"], ["manifest", "healthCheckHttpEndpoint"]]
  | _ => []

/-- A field is not passed over: a call is for it, or a warning is about it. -/
inductive Heard (name : String) (calls : List Call) (warnings : List String)
    (field : Field Application) : Prop
  | called (call : Call) (member : call ∈ calls) (settles : field.names ∈ settledFields call)
  | fixed (member : fixedWarning name field ∈ warnings)
  | unset (dimension : Dimension) (names : field.names = ["manifest", dimension.name])
      (member : unsetWarning name dimension ∈ warnings)
  | unchecked (names : field.names = ["manifest", "healthCheckType"] ∨
      field.names = ["manifest", "healthCheckHttpEndpoint"])
      (member : checkWarning name ∈ warnings)

theorem Heard.imp {name : String} {calls : List Call} {warnings others : List String}
    {field : Field Application} (heard : Heard name calls warnings field)
    (said : ∀ warning ∈ warnings, warning ∈ others) : Heard name calls others field := by
  cases heard with
  | called call member settles => exact .called call member settles
  | fixed member => exact .fixed (said _ member)
  | unset dimension names member => exact .unset dimension names (said _ member)
  | unchecked names member => exact .unchecked names (said _ member)

/-- Calls and warnings that tell how one record of an application differs from another. -/
structure TellsUpdate (name : String) (live desired : Application) (changes : List Change)
    (calls : List Call) (warnings : List String) : Prop where
  updates : Updates name live.manifest desired.manifest calls
  said : warnings.Perm (updateWarnings name live desired)
  heard : ∀ change ∈ changes, ∃ field ∈ Application.table,
    change.path = field.path (.ofEntity .applications name) ∧ Heard name calls warnings field

/-! ### Calls -/

theorem environmentCall_eq {live desired : Manifest} (name : String) {entry : EntryChange}
    (changed : entry ∈ mapDelta live.environmentVariables desired.environmentVariables) :
    environmentCall name entry = variableCall name desired entry.key := by
  obtain ⟨after, removed⟩ := entryDelta_after (mem_mapDelta.mp changed)
  rw [environmentCall, variableCall]
  -- A variable is removed exactly if none is desired, and otherwise ends up as it is desired.
  cases wanted : desired.environmentVariables.get? entry.key with
  | none => rw [removed.mpr wanted]
  | some value =>
    have kept : entry.kind ≠ .removed := by simp [removed, wanted]
    rw [after, wanted]
    cases kind : entry.kind <;> first | rfl | exact absurd kind kept

/-- There is one call for the scale unless nothing is to be scaled. -/
theorem scaleCalls_eq (name : String) (scale : Scale) :
    scaleCalls name scale = if scale = {} then [] else [.scaleApplication name scale] := by
  have empty : scale.isEmpty = true ↔ scale = {} := by
    obtain ⟨instances, memory, disk⟩ := scale
    simp [Scale.isEmpty, and_assoc]
  simp only [scaleCalls, empty]

theorem sizeOf_scaleDelta_iff {live desired : Manifest} {dimension : Dimension} {size : UInt32} :
    dimension.sizeOf (scaleDelta live desired) = some size ↔
      dimension.sizeIn desired = some size ∧ dimension.sizeIn live ≠ some size := by
  have differs (held wanted : Option UInt32) : (if held = wanted then none else wanted) =
      some size ↔ wanted = some size ∧ held ≠ some size := by
    split
    next same => simp [same]
    next distinct =>
      constructor
      · rintro rfl
        exact ⟨rfl, distinct⟩
      · exact And.left
  cases dimension <;> exact differs _ _

theorem healthCheckCalls_eq (name : String) (live desired : Manifest) :
    healthCheckCalls name (healthCheckDelta live desired) =
      if SameCheck live desired then [] else desired.healthCheckType.toList.map fun type =>
        .setHealthCheck name type desired.healthCheckHttpEndpoint := by
  have delta : healthCheckDelta live desired =
      if SameCheck live desired then none else some desired := rfl
  rw [delta]
  split <;> rfl

theorem updates_manifestCalls (name : String) (live desired : Manifest) :
    Updates name live desired (manifestCalls name live desired) := by
  -- The lists that the calls are made of are those of the deltas, each without repetition.
  refine ⟨(mapDelta live.environmentVariables desired.environmentVariables).map (·.key),
    (collectionDelta live.services desired.services).1,
    (collectionDelta live.services desired.services).2, scaleDelta live desired,
    listsExactly_mapDelta _ _, listsExactly_added _ _, listsExactly_removed _ _,
    fun _ _ => sizeOf_scaleDelta_iff, ?_⟩
  have environment : (mapDelta live.environmentVariables desired.environmentVariables).map
      (environmentCall name) = ((mapDelta live.environmentVariables
        desired.environmentVariables).map (·.key)).map (variableCall name desired) := by
    rw [List.map_map]
    exact List.map_congr_left fun entry changed => environmentCall_eq name changed
  simp only [manifestCalls, bindingCalls, environment, scaleCalls_eq, healthCheckCalls_eq,
    List.append_assoc]

/-! ### Warnings -/

def changeWarnings (name : String) (change : Change) : List String :=
  match contribution name change with
  | .ok given => given.warnings
  | .error _ => []

theorem flatMap_warnings {name : String} {changes : List Change} {given : List Contribution}
    (contributed : Contributes name changes given) :
    given.flatMap Contribution.warnings = changes.flatMap (changeWarnings name) := by
  rw [List.flatMap_def, List.flatMap_def]
  refine congrArg _ (contributed.map_eq fun change one made => ?_)
  rw [changeWarnings, made]

/-- A change of a field that no call is for is no more than a warning. -/
theorem contribution_of_inert {name field : String} {change : Change}
    (property : change.property? = some field) (inert : Inert field)
    (noVariables : field ≠ "environmentVariables") (noBindings : field ≠ "services") :
    contribution name change = .ok (noCall name change) := by
  obtain ⟨noDimension, noType, noEndpoint, noName⟩ := inert
  rw [contribution, property]
  cases change.difference with
  | value before after =>
    simp only [valueContribution, property, Option.getD_some, noDimension, noType, noEndpoint,
      noName, decide_false, Bool.or_self, Bool.false_eq_true, if_false]
    rfl
  | map entries => simp [noVariables]
  | collection added removed => simp [noBindings]
  | objectAdded => rfl
  | objectRemoved => rfl

theorem property?_path {α : Type} (field : Field α) (record : Path) :
    (field.path record).property? = field.names.getLast? := by
  rw [Path.property?, Field.path, List.getLast?_append, List.getLast?_map]
  cases last : field.names.getLast? with
  | none => exact absurd (List.getLast?_eq_none_iff.mp last) field.nonempty
  | some name => rfl

/-- The last name of a fixed field is one that the planner has no call for. -/
theorem inert_of_fixed {field : Field Application} (fixed : field ∈ fixedFields) :
    ∃ last, field.names.getLast? = some last ∧ Inert last ∧ last ≠ "environmentVariables" ∧
      last ≠ "services" := by
  have all : ∀ names ∈ fixedFields.map (·.names), names.getLast?.any (fun last =>
      decide (Inert last ∧ last ≠ "environmentVariables" ∧ last ≠ "services")) = true := by
    decide
  have inert := all _ (List.mem_map_of_mem fixed)
  rw [Option.any_eq_true] at inert
  obtain ⟨last, isLast, noCall⟩ := inert
  exact ⟨last, isLast, of_decide_eq_true noCall⟩

def manifestOwner (name : String) (desired : Application) : Owner :=
  ⟨(Path.ofEntity .applications name).child "manifest", .manifest desired.manifest⟩

/-- How the fields that calls change are compared. -/
inductive Callable (field : Field Application) : Prop
  | size (dimension : Dimension) (names : field.names = ["manifest", dimension.name])
      (compared : ∀ name live desired,
        (field.change? (.ofEntity .applications name) live desired).toList =
          (manifestOwner name desired).word dimension.name
            (dimension.sizeIn live.manifest) (dimension.sizeIn desired.manifest))
  | environment (names : field.names = ["manifest", "environmentVariables"])
      (compared : ∀ name live desired,
        (field.change? (.ofEntity .applications name) live desired).toList =
          (manifestOwner name desired).map "environmentVariables"
            live.manifest.environmentVariables desired.manifest.environmentVariables)
  | bindings (names : field.names = ["manifest", "services"])
      (compared : ∀ name live desired,
        (field.change? (.ofEntity .applications name) live desired).toList =
          (manifestOwner name desired).collection "services"
            live.manifest.services desired.manifest.services)
  | checkType (names : field.names = ["manifest", "healthCheckType"])
      (compared : ∀ name live desired,
        (field.change? (.ofEntity .applications name) live desired).toList =
          (manifestOwner name desired).value "healthCheckType"
            HealthCheckType.name live.manifest.healthCheckType desired.manifest.healthCheckType)
  | checkEndpoint (names : field.names = ["manifest", "healthCheckHttpEndpoint"])
      (compared : ∀ name live desired,
        (field.change? (.ofEntity .applications name) live desired).toList =
          (manifestOwner name desired).text "healthCheckHttpEndpoint"
            live.manifest.healthCheckHttpEndpoint desired.manifest.healthCheckHttpEndpoint)

theorem callable_of_mem_table : ∀ field ∈ Application.table, field.names ∈ callFields →
    Callable field := by
  have fixed {field : Field Application} (uncalled : field.names ∉ callFields)
      (called : field.names ∈ callFields) : Callable field := absurd called uncalled
  -- The fields of the record itself come first, then those of its manifest, in their order.
  refine List.forall_mem_append.mpr ⟨?_, List.forall_mem_map.mpr ?_⟩
  · rw [← List.forall_iff_forall_mem]
    exact ⟨fixed (by decide), fixed (by decide)⟩
  · rw [← List.forall_iff_forall_mem]
    unfold Manifest.table
    exact ⟨fixed (by decide), fixed (by decide),
      fun _ => .size .disk rfl fun _ _ _ => toList_map_valueDifference? .word _ _ _,
      fixed (by decide), fixed (by decide),
      fun _ => .environment rfl fun _ _ _ => toList_map_entriesDifference? _ _ _,
      fun _ => .checkEndpoint rfl fun _ _ _ => toList_map_valueDifference? .text _ _ _,
      fun _ => .checkType rfl fun _ _ _ => toList_map_valueDifference? .healthCheck _ _ _,
      fun _ => .size .instances rfl fun _ _ _ => toList_map_valueDifference? .word _ _ _,
      fun _ => .size .memory rfl fun _ _ _ => toList_map_valueDifference? .word _ _ _,
      fixed (by decide), fixed (by decide), fixed (by decide), fixed (by decide),
      fun _ => .bindings rfl fun _ _ _ => toList_map_namesDifference? _ _ _,
      fixed (by decide), fixed (by decide)⟩

/-- The warnings that the change of a field gives rise to, if it differs. -/
def fieldWarnings (name : String) (live desired : Application) (field : Field Application) :
    List String :=
  (field.change? (.ofEntity .applications name) live desired).toList.flatMap (changeWarnings name)

section

variable (name : String) (live desired : Application)

theorem flatMap_changeWarnings :
    (Application.diff (.ofEntity .applications name) live desired).flatMap (changeWarnings name) =
      Application.table.flatMap (fieldWarnings name live desired) := by
  rw [Application.diff_eq, List.filterMap_eq_flatMap_toList, List.flatMap_assoc]
  rfl

/-- A field that no call sets has a warning if it differs. -/
theorem fieldWarnings_of_fixed {field : Field Application} (fixed : field ∈ fixedFields) :
    fieldWarnings name live desired field =
      if field.Agrees live desired then [] else [fixedWarning name field] := by
  rw [fieldWarnings]
  cases changed : field.change? (.ofEntity .applications name) live desired with
  | none =>
    rw [if_pos (change?_eq_none_iff.mp changed)]
    rfl
  | some change =>
    have differs : ¬ field.Agrees live desired := by
      rw [← change?_eq_none_iff, changed]
      simp
    -- The field's last name is one of those the planner has no call for.
    obtain ⟨last, isLast, inert, noVariables, noBindings⟩ := inert_of_fixed fixed
    have place := Field.path_of_change? changed
    have property : change.property? = some last := by
      rw [Change.property?, place, property?_path, isLast]
    rw [if_neg differs, Option.toList_some, List.flatMap_singleton, changeWarnings,
      contribution_of_inert property inert noVariables noBindings]
    rw [noCall, place]
    rfl

theorem fieldWarnings_of_contributes {field : Field Application} {changes : List Change}
    {given : List Contribution}
    (made : (field.change? (.ofEntity .applications name) live desired).toList = changes)
    (contributed : Contributes name changes given) :
    fieldWarnings name live desired field = given.flatMap Contribution.warnings := by
  rw [fieldWarnings, made, flatMap_warnings contributed]

/-- The warnings about a field that calls change, by its name. -/
def callableWarnings (field : String) : List String :=
  match Dimension.ofName? field with
  | some dimension =>
    if Unsets live.manifest desired.manifest dimension then [unsetWarning name dimension] else []
  | none => []

theorem callableWarnings_size (dimension : Dimension) :
    callableWarnings name live desired dimension.name =
      if Unsets live.manifest desired.manifest dimension then [unsetWarning name dimension]
      else [] := by
  rw [callableWarnings, Dimension.ofName?_name]

/-- A size contributes a warning if it differs and has no desired value. -/
theorem warnings_size (dimension : Dimension) :
    (if dimension.sizeIn live.manifest = dimension.sizeIn desired.manifest then []
      else [sizeContribution name dimension desired.manifest]).flatMap Contribution.warnings =
      callableWarnings name live desired dimension.name := by
  rw [callableWarnings_size]
  -- A size that is desired can be set; only one that is not would have to be unset.
  cases wanted : dimension.sizeIn desired.manifest with
  | none =>
    have unset : (sizeContribution name dimension desired.manifest).warnings =
        [unsetWarning name dimension] := by rw [sizeContribution, wanted]; rfl
    by_cases held : dimension.sizeIn live.manifest = none <;> simp [Unsets, held, wanted, unset]
  | some size =>
    have silent : (sizeContribution name dimension desired.manifest).warnings = [] := by
      rw [sizeContribution, wanted]; rfl
    have kept : ¬ Unsets live.manifest desired.manifest dimension := by simp [Unsets, wanted]
    rw [if_neg kept]
    split <;> simp [silent]

/-- A field with calls has the warnings of a size, or none. -/
theorem fieldWarnings_of_callable {field : Field Application} (callable : Callable field) :
    fieldWarnings name live desired field =
      callableWarnings name live desired (field.names.getLast?.getD "") := by
  have silent {p : Prop} [Decidable p] {given : Contribution} (quiet : given.warnings = []) :
      (if p then [] else [given]).flatMap Contribution.warnings = [] := by
    split <;> simp [quiet]
  -- Each field that calls can set contributes calls in a way of its own.
  cases callable with
  | size dimension names compared =>
    rw [fieldWarnings_of_contributes name live desired (compared ..)
      (contributes_size name _ rfl dimension _ _), warnings_size, names]
    rfl
  | environment names compared =>
    rw [fieldWarnings_of_contributes name live desired (compared ..)
      (contributes_variables name _ _ _), names]
    exact silent rfl
  | bindings names compared =>
    rw [fieldWarnings_of_contributes name live desired (compared ..)
      (contributes_bindings name _ _ _), names]
    exact silent rfl
  | checkType names compared =>
    rw [fieldWarnings_of_contributes name live desired (compared ..)
      (contributes_healthCheck name _ _ rfl _ _ _ (.inl rfl)), names]
    exact silent rfl
  | checkEndpoint names compared =>
    rw [fieldWarnings_of_contributes name live desired (compared ..)
      (contributes_healthCheck name _ _ rfl _ _ _ (.inr rfl)), names]
    exact silent rfl

/-! ### Every warning -/

theorem flatMap_ite_singleton {α β : Type} (list : List α) (p : α → Prop) [DecidablePred p]
    (f : α → β) : (list.flatMap fun one => if p one then [f one] else []) =
      (list.filter p).map f := by
  induction list with
  | nil => rfl
  | cons first rest ih => by_cases holds : p first <;> simp [List.flatMap_cons, holds, ih]

theorem flatMap_fixed : fixedFields.flatMap (fieldWarnings name live desired) =
    (fixedFields.filter fun field => ¬ field.Agrees live desired).map (fixedWarning name) := by
  rw [← flatMap_ite_singleton]
  simp only [ite_not]
  exact List.flatMap_congr fun field fixed => fieldWarnings_of_fixed name live desired fixed

/-- Of the fields with calls only the three sizes can have a warning. -/
theorem flatMap_callable :
    (Application.table.filter (·.names ∈ callFields)).flatMap (fieldWarnings name live desired) =
      (Dimension.all.filter (Unsets live.manifest desired.manifest)).map (unsetWarning name) := by
  have each : ∀ field ∈ Application.table.filter (·.names ∈ callFields),
      fieldWarnings name live desired field =
        callableWarnings name live desired (field.names.getLast?.getD "") := by
    intro field member
    obtain ⟨isField, called⟩ := List.mem_filter.mp member
    exact fieldWarnings_of_callable name live desired
      (callable_of_mem_table field isField (of_decide_eq_true called))
  have names : (Application.table.filter (·.names ∈ callFields)).map (·.names.getLast?.getD "") =
      ["disk", "environmentVariables", "healthCheckHttpEndpoint", "healthCheckType", "instances",
        "memory", "services"] := by decide
  -- Only the sizes among them are warned of.
  have sizes : ["disk", "environmentVariables", "healthCheckHttpEndpoint", "healthCheckType",
      "instances", "memory", "services"].flatMap (callableWarnings name live desired) =
      Dimension.all.flatMap fun dimension => callableWarnings name live desired dimension.name :=
    rfl
  rw [List.flatMap_congr each, ← List.flatMap_map, names, sizes, ← flatMap_ite_singleton]
  exact List.flatMap_congr fun dimension _ => callableWarnings_size name live desired dimension

theorem healthCheckWarnings_eq (live desired : Manifest) :
    healthCheckWarnings name (healthCheckDelta live desired) =
      if ¬ SameCheck live desired ∧ desired.healthCheckType = none then [checkWarning name]
      else [] := by
  have delta : healthCheckDelta live desired =
      if SameCheck live desired then none else some desired := rfl
  rw [delta]
  by_cases same : SameCheck live desired <;>
    by_cases unset : desired.healthCheckType = none <;>
      simp [healthCheckWarnings, same, unset, checkWarning]

/-- An update has the calls between the manifests and its warnings in some order. -/
theorem updateApplication_diff :
    (updateApplication name
        (Application.diff (.ofEntity .applications name) live desired)).calls =
      .ok (manifestCalls name live.manifest desired.manifest) ∧
    (updateApplication name
        (Application.diff (.ofEntity .applications name) live desired)).warnings.Perm
      (updateWarnings name live desired) := by
  have contributed := contributes_application name (.ofEntity .applications name) live desired
  have given := flatMap_warnings contributed
  rw [Contributes] at contributed
  simp only [updateApplication, contributed]
  refine ⟨congrArg _ (callsOf_application ..), ?_⟩
  rw [given, flatMap_changeWarnings, healthCheckOf_applicationContributions,
    healthCheckWarnings_eq, updateWarnings]
  apply List.Perm.append_right
  -- Warnings are given in the order of the fields; here those of the fixed fields come first.
  have parted := (List.filter_append_perm (fun field : Field Application =>
    decide (field.names ∈ callFields)) Application.table).flatMap_right
      (fieldWarnings name live desired)
  simp only [List.flatMap_append, ← decide_not] at parted
  rw [flatMap_callable] at parted
  exact parted.symm.trans (List.perm_append_comm.trans (.of_eq (by rw [← flatMap_fixed]; rfl)))

/-! ### Nothing is passed over -/

/-- A size that differs is scaled, or there is a warning that it is not unset. -/
theorem size_heard {dimension : Dimension} {field : Field Application}
    (differs : dimension.sizeIn live.manifest ≠ dimension.sizeIn desired.manifest)
    (names : field.names = ["manifest", dimension.name]) :
    Heard name (manifestCalls name live.manifest desired.manifest)
      (updateWarnings name live desired) field := by
  have known : dimension ∈ Dimension.all := by cases dimension <;> decide
  cases wanted : dimension.sizeIn desired.manifest with
  | none =>
    have unset : Unsets live.manifest desired.manifest dimension := ⟨wanted ▸ differs, wanted⟩
    refine .unset dimension names (List.mem_append_left _ (List.mem_append_right _ ?_))
    exact List.mem_map_of_mem (List.mem_filter.mpr ⟨known, decide_eq_true unset⟩)
  | some size =>
    have scaled : dimension.sizeOf (scaleDelta live.manifest desired.manifest) = some size :=
      sizeOf_scaleDelta_iff.mpr ⟨wanted, wanted ▸ differs⟩
    -- The scaling has this size, so it is not left out as empty.
    have some : scaleDelta live.manifest desired.manifest ≠ {} := by
      intro empty
      rw [empty] at scaled
      cases dimension <;> cases scaled
    refine .called (.scaleApplication name (scaleDelta live.manifest desired.manifest))
      (List.mem_append_left _ (List.mem_append_right _ ?_)) ?_
    · rw [scaleCalls_eq, if_neg some]
      exact List.mem_singleton_self _
    · exact List.mem_filterMap.mpr ⟨dimension, known, by rw [scaled, names]; rfl⟩

theorem environment_heard {field : Field Application}
    (differs : mapDelta live.manifest.environmentVariables
      desired.manifest.environmentVariables ≠ [])
    (names : field.names = ["manifest", "environmentVariables"]) :
    Heard name (manifestCalls name live.manifest desired.manifest)
      (updateWarnings name live desired) field := by
  obtain ⟨entry, changed⟩ := List.exists_mem_of_ne_nil _ differs
  refine .called (environmentCall name entry) (List.mem_append_left _ (List.mem_append_left _
    (List.mem_append_left _ (List.mem_map_of_mem changed)))) ?_
  rw [environmentCall, names]
  cases entry.kind <;> exact List.mem_singleton_self _

theorem bindings_heard {field : Field Application}
    (differs : bindingCalls name live.manifest.services desired.manifest.services ≠ [])
    (names : field.names = ["manifest", "services"]) :
    Heard name (manifestCalls name live.manifest desired.manifest)
      (updateWarnings name live desired) field := by
  obtain ⟨call, isCall⟩ := List.exists_mem_of_ne_nil _ differs
  refine .called call (List.mem_append_left _ (List.mem_append_left _
    (List.mem_append_right _ isCall))) ?_
  simp only [bindingCalls, List.mem_append, List.mem_map] at isCall
  rcases isCall with ⟨service, _, rfl⟩ | ⟨service, _, rfl⟩ <;> simp [names, settledFields]

/-- A health check that differs is set, or there is a warning that it has no type. -/
theorem check_heard (differs : ¬ SameCheck live.manifest desired.manifest)
    {field : Field Application} (names : field.names = ["manifest", "healthCheckType"] ∨
      field.names = ["manifest", "healthCheckHttpEndpoint"]) :
    Heard name (manifestCalls name live.manifest desired.manifest)
      (updateWarnings name live desired) field := by
  cases wanted : desired.manifest.healthCheckType with
  | none =>
    refine .unchecked names (List.mem_append_right _ ?_)
    rw [if_pos ⟨differs, wanted⟩]
    exact List.mem_singleton_self _
  | some type =>
    refine .called (.setHealthCheck name type desired.manifest.healthCheckHttpEndpoint)
      (List.mem_append_right _ ?_) ?_
    · rw [healthCheckCalls_eq, if_neg differs, wanted]
      exact List.mem_singleton_self _
    · rcases names with names | names <;> simp [names, settledFields]

/-- Every field that differs has a call or a warning. -/
theorem heard_of_differs {field : Field Application} (isField : field ∈ Application.table)
    (differs : ¬ field.Agrees live desired) :
    Heard name (manifestCalls name live.manifest desired.manifest)
      (updateWarnings name live desired) field := by
  by_cases called : field.names ∈ callFields
  -- A field that calls change has a call or a warning by its kind; any other has its own warning.
  · have changed : (field.change? (.ofEntity .applications name) live desired).toList ≠ [] := by
      rwa [ne_eq, Option.toList_eq_nil_iff, change?_eq_none_iff]
    cases callable_of_mem_table field isField called with
    | size dimension names compared =>
      rw [compared] at changed
      exact size_heard name live desired (fun same => changed (if_pos same)) names
    | environment names compared =>
      rw [compared] at changed
      exact environment_heard name live desired
        (fun none => changed (if_pos (List.isEmpty_iff.mpr none))) names
    | bindings names compared =>
      rw [compared] at changed
      refine bindings_heard name live desired (fun none => changed ?_) names
      obtain ⟨noneAdded, noneRemoved⟩ := List.append_eq_nil_iff.mp none
      rw [List.map_eq_nil_iff] at noneAdded noneRemoved
      simp only [Owner.collection, noneAdded, noneRemoved]
      rfl
    | checkType names compared =>
      rw [compared] at changed
      exact check_heard name live desired (fun same => changed (if_pos same.1)) (.inl names)
    | checkEndpoint names compared =>
      rw [compared] at changed
      exact check_heard name live desired (fun same => changed (if_pos same.2)) (.inr names)
  · have fixed : field ∈ fixedFields := List.mem_filter.mpr ⟨isField, decide_eq_true called⟩
    refine .fixed (List.mem_append_left _ (List.mem_append_left _ (List.mem_map_of_mem ?_)))
    exact List.mem_filter.mpr ⟨fixed, decide_eq_true differs⟩

end

/-- The plan for an application in both spaces has just the calls and warnings that tell how its
records differ. -/
theorem update_tells {live desired : Space} {name : String} {held wanted : Application}
    (named : name ≠ "") (isHeld : live.applications.get? name = some held)
    (isWanted : desired.applications.get? name = some wanted) :
    let changes := (live.diff desired).filter (·.isWithin .applications name)
    ∃ calls, (application name changes).calls = .ok calls ∧
      TellsUpdate name held wanted changes calls (application name changes).warnings := by
  intro changes
  have compared : changes = Application.diff (.ofEntity .applications name) held wanted := by
    refine (filter_diff_application live desired name).trans ?_
    rw [isHeld, isWanted]
    rfl
  have planned : application name changes = updateApplication name changes := by
    -- Both records are there, so that the plan is an update.
    rw [application, compared, transition_updated named (Application.fieldsOf_diff _ held wanted)]
  obtain ⟨made, said⟩ := updateApplication_diff name held wanted
  rw [planned, compared]
  refine ⟨_, made, updates_manifestCalls name held.manifest wanted.manifest, said, ?_⟩
  intro change member
  obtain ⟨field, isField, changed⟩ := Application.schema.mem_compare.mp member
  have differs : ¬ field.Agrees held wanted := by
    intro agrees
    rw [change?_eq_none_iff.mpr agrees] at changed
    cases changed
  exact ⟨field, isField, Field.path_of_change? changed,
    (heard_of_differs name held wanted isField differs).imp fun _ => said.mem_iff.mpr⟩

/-- An update with variables, a binding and a size, and a warning for each of what cannot be set. -/
theorem update_tells_mixed :
    let held : Application := { manifest := {
      instances := some 2, disk := some 64, stack := some "old", services := ["db", "log"]
      environmentVariables := .ofList [("A", "1"), ("B", "2")] } }
    let wanted : Application := { manifest := {
      instances := some 3, stack := some "new", services := ["cache", "db", "cache"]
      healthCheckHttpEndpoint := some "/up"
      environmentVariables := .ofList [("A", "1"), ("B", "3"), ("C", "")] } }
    let live : Space := { applications := .ofList [("web", held)] }
    let desired : Space := { applications := .ofList [("web", wanted)] }
    let changes := (live.diff desired).filter (·.isWithin .applications "web")
    ∃ calls, (application "web" changes).calls = .ok calls ∧
      TellsUpdate "web" held wanted changes calls (application "web" changes).warnings := by
  intro held wanted live desired
  exact update_tells (by decide) (by rfl) (by rfl)

end Plan

end CloudSpace
