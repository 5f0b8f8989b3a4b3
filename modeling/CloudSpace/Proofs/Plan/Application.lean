import CloudSpace.Plan.Application
import CloudSpace.Proofs.Delta

/-!
# The plan for an application in place

What the planner makes of the changes that the differ finds between two records of one
application: a call for each variable that differs, one for each binding to be added or removed,
at most one scaling, and at most one health check.
-/
namespace CloudSpace.Plan

/-! ### The calls between two manifests -/

/-- The sizes that differ and that the desired manifest sets. -/
def scaleDelta (live desired : Manifest) : Scale where
  instances := if live.instances = desired.instances then none else desired.instances
  memory := if live.memory = desired.memory then none else desired.memory
  disk := if live.disk = desired.disk then none else desired.disk

/-- The manifest whose health check is to be set, if the health checks differ. -/
def healthCheckDelta (live desired : Manifest) : Option Manifest :=
  if live.healthCheckType = desired.healthCheckType ∧
      live.healthCheckHttpEndpoint = desired.healthCheckHttpEndpoint then none
  else some desired

def bindingCalls (name : String) (live desired : List String) : List Call :=
  (collectionDelta live desired).1.map (.bindService name) ++
    (collectionDelta live desired).2.map (.unbindService name)

/-- The calls that bring an application from one manifest to another. -/
def manifestCalls (name : String) (live desired : Manifest) : List Call :=
  (mapDelta live.environmentVariables desired.environmentVariables).map (environmentCall name) ++
    bindingCalls name live.services desired.services ++
    scaleCalls name (scaleDelta live desired) ++
    healthCheckCalls name (healthCheckDelta live desired)

/-! ### Contributions of changes -/

/-- A list of changes, none of which is an error, contributes these things. -/
def Contributes (name : String) (changes : List Change) (given : List Contribution) : Prop :=
  contributions name changes = (given, none)

/-- What two lists of changes contribute is what they contribute one after the other. -/
theorem Contributes.append {name : String} {first second : List Change}
    {given others : List Contribution} (fine : Contributes name first given)
    (rest : Contributes name second others) :
    Contributes name (first ++ second) (given ++ others) := by
  -- By induction on the first list; a failure in it would have left nothing to append to.
  induction first generalizing given with
  | nil => cases fine; exact rest
  | cons change tail ih =>
    simp only [Contributes, contributions] at fine
    rw [Contributes, List.cons_append, contributions]
    cases contributed : contribution name change with
    | error _ => simp [contributed] at fine
    | ok one =>
      simp only [contributed, Prod.mk.injEq] at fine
      obtain ⟨rfl, complete⟩ := fine
      have whole : contributions name (tail ++ second) = _ := ih (Prod.ext rfl complete)
      simp only [whole, List.cons_append]

theorem contributes_singleton {name : String} {change : Change} {given : Contribution}
    (contributed : contribution name change = .ok given) :
    Contributes name [change] [given] := by
  simp [Contributes, contributions, contributed]

/-- What is read of each contribution is what each change asks for. -/
theorem Contributes.map_eq {β : Type} {read : Contribution → β} {ask : Change → β} {name : String}
    {changes : List Change} {given : List Contribution}
    (contributed : Contributes name changes given)
    (each : ∀ change one, contribution name change = .ok one → read one = ask change) :
    given.map read = changes.map ask := by
  induction changes generalizing given with
  | nil => cases contributed; rfl
  | cons change rest ih =>
    simp only [Contributes, contributions] at contributed
    cases first : contribution name change with
    | error _ => simp [first] at contributed
    | ok one =>
      simp only [first, Prod.mk.injEq] at contributed
      obtain ⟨rfl, complete⟩ := contributed
      rw [List.map_cons, List.map_cons, each change one first, ih (Prod.ext rfl complete)]

theorem Dimension.ofName?_name (dimension : Dimension) :
    Dimension.ofName? dimension.name = some dimension := by
  cases dimension <;> decide

@[simp] theorem property?_child (path : Path) (field : String) :
    (path.child field).property? = some field := by
  simp [Path.property?, Path.child]

/-- Fields with a single value that no call changes. -/
def Inert (field : String) : Prop :=
  Dimension.ofName? field = none ∧ field ≠ "healthCheckType" ∧
    field ≠ "healthCheckHttpEndpoint" ∧ field ≠ "name"

instance (field : String) : Decidable (Inert field) := inferInstanceAs (Decidable (_ ∧ _))

section

variable (name : String) (owner : Owner) (field : String)

/-- A change of a size is the new size, or a warning if there is none. -/
def sizeContribution (dimension : Dimension) (manifest : Manifest) : Contribution :=
  match dimension.sizeIn manifest with
  | some size => .size dimension size
  | none => .warning s!"Application '{name}': {dimension.name} cannot be unset, skipping"

/-- A change of a size contributes the whole manifest's size, from the owning record. -/
theorem contributes_size {manifest : Manifest} (carries : owner.affected = .manifest manifest)
    (dimension : Dimension) (live desired : Option UInt32) :
    Contributes name (owner.word dimension.name live desired)
      (if live = desired then [] else [sizeContribution name dimension manifest]) := by
  simp only [Owner.word, Owner.value]
  split
  · rfl
  · apply contributes_singleton
    simp only [contribution, valueContribution, Change.property?, property?_child,
      Option.getD_some, Dimension.ofName?_name, manifestOf, carries, sizeContribution, bind,
      Except.bind]
    cases dimension.sizeIn manifest <;> rfl

/-- Both fields of the health check contribute the check of the manifest they come with. -/
theorem contributes_healthCheck {α : Type} [DecidableEq α] {manifest : Manifest}
    (carries : owner.affected = .manifest manifest) (text : α → String)
    (live desired : Option α)
    (isHealthCheck : field = "healthCheckType" ∨ field = "healthCheckHttpEndpoint") :
    Contributes name (owner.value field text live desired)
      (if live = desired then [] else [.healthCheck manifest]) := by
  simp only [Owner.value]
  split
  · rfl
  · apply contributes_singleton
    have unknown : Dimension.ofName? field = none := by
      rcases isHealthCheck with rfl | rfl <;> decide
    simp only [contribution, valueContribution, Change.property?, property?_child,
      Option.getD_some, unknown, manifestOf, carries]
    rcases isHealthCheck with rfl | rfl <;> rfl

theorem contributes_inert {α : Type} [DecidableEq α] (text : α → String)
    (live desired : Option α) (inert : Inert field) :
    Contributes name (owner.value field text live desired)
      ((owner.value field text live desired).map (noCall name)) := by
  simp only [Owner.value]
  split
  · rfl
  · apply contributes_singleton
    obtain ⟨noDimension, noType, noEndpoint, noName⟩ := inert
    simp [contribution, valueContribution, Change.property?, noDimension, noType, noEndpoint,
      noName]
    rfl

/-- Variables contribute one call for each entry of the delta. -/
theorem contributes_variables (live desired : NameMap String) :
    Contributes name (owner.map "environmentVariables" live desired)
      (if (mapDelta live desired).isEmpty then []
        else [.calls ((mapDelta live desired).map (environmentCall name))]) := by
  simp only [Owner.map]
  split
  · rfl
  · apply contributes_singleton
    simp [contribution, Change.property?]

/-- Bindings contribute one call for each service bound or unbound. -/
theorem contributes_bindings (live desired : List String) :
    Contributes name (owner.collection "services" live desired)
      (if (bindingCalls name live desired).isEmpty then []
        else [.calls (bindingCalls name live desired)]) := by
  have empty : (bindingCalls name live desired).isEmpty =
      ((collectionDelta live desired).1.isEmpty && (collectionDelta live desired).2.isEmpty) := by
    rw [bindingCalls]
    cases (collectionDelta live desired).1 <;> cases (collectionDelta live desired).2 <;> rfl
  simp only [Owner.collection, empty]
  split
  · rfl
  · apply contributes_singleton
    simp [contribution, Change.property?, bindingCalls]

theorem contributes_routes (live desired : List String) (noServices : field ≠ "services") :
    Contributes name (owner.collection field live desired)
      ((owner.collection field live desired).map (noCall name)) := by
  simp only [Owner.collection]
  split
  · rfl
  · apply contributes_singleton
    simp [contribution, Change.property?, noServices]

end

/-! ### All contributions -/

/-- What the changes between two manifests contribute. -/
def manifestContributions (name : String) (path : Path) (live desired : Manifest) :
    List Contribution :=
  let owner : Owner := ⟨path, .manifest desired⟩
  (owner.text "buildpack" live.buildpack desired.buildpack).map (noCall name) ++
  (owner.text "command" live.command desired.command).map (noCall name) ++
  (if live.disk = desired.disk then [] else [sizeContribution name .disk desired]) ++
  (owner.text "dockerImage" live.dockerImage desired.dockerImage).map (noCall name) ++
  (owner.text "dockerUsername" live.dockerUsername desired.dockerUsername).map (noCall name) ++
  (if (mapDelta live.environmentVariables desired.environmentVariables).isEmpty then []
    else [.calls ((mapDelta live.environmentVariables desired.environmentVariables).map
      (environmentCall name))]) ++
  (if live.healthCheckHttpEndpoint = desired.healthCheckHttpEndpoint then []
    else [.healthCheck desired]) ++
  (if live.healthCheckType = desired.healthCheckType then [] else [.healthCheck desired]) ++
  (if live.instances = desired.instances then [] else [sizeContribution name .instances desired]) ++
  (if live.memory = desired.memory then [] else [sizeContribution name .memory desired]) ++
  (owner.flag "noRoute" live.noRoute desired.noRoute).map (noCall name) ++
  (owner.flag "randomRoute" live.randomRoute desired.randomRoute).map (noCall name) ++
  (owner.text "routePath" live.routePath desired.routePath).map (noCall name) ++
  (owner.collection "routes" live.routes desired.routes).map (noCall name) ++
  (if (bindingCalls name live.services desired.services).isEmpty then []
    else [.calls (bindingCalls name live.services desired.services)]) ++
  (owner.text "stack" live.stack desired.stack).map (noCall name) ++
  (owner.word "timeout" live.timeout desired.timeout).map (noCall name)

/-- What the changes between two applications contribute. -/
def applicationContributions (name : String) (path : Path) (live desired : Application) :
    List Contribution :=
  let owner : Owner := ⟨path, .application desired⟩
  (owner.text "path" live.path desired.path).map (noCall name) ++
  (owner.text "meta" live.metadata desired.metadata).map (noCall name) ++
  manifestContributions name (path.child "manifest") live.manifest desired.manifest

/-- The fields of a manifest are gone through in the order the differ gives them. -/
theorem contributes_manifest (name : String) (path : Path) (live desired : Manifest) :
    Contributes name (Manifest.diff path live desired)
      (manifestContributions name path live desired) := by
  -- The fields are those of the differ, in its order; what has no call of its own is inert.
  have inert (field : String) {α : Type} [DecidableEq α] :=
    @contributes_inert name ⟨path, .manifest desired⟩ field α _
  exact inert "buildpack" id _ _ (by decide)
    |>.append (inert "command" id _ _ (by decide))
    |>.append (contributes_size name _ rfl .disk _ _)
    |>.append (inert "dockerImage" id _ _ (by decide))
    |>.append (inert "dockerUsername" id _ _ (by decide))
    |>.append (contributes_variables name _ _ _)
    |>.append (contributes_healthCheck name _ _ rfl id _ _ (.inr rfl))
    |>.append (contributes_healthCheck name _ _ rfl HealthCheckType.name _ _ (.inl rfl))
    |>.append (contributes_size name _ rfl .instances _ _)
    |>.append (contributes_size name _ rfl .memory _ _)
    |>.append (inert "noRoute" _ _ _ (by decide))
    |>.append (inert "randomRoute" _ _ _ (by decide))
    |>.append (inert "routePath" id _ _ (by decide))
    |>.append (contributes_routes name _ "routes" _ _ (by decide))
    |>.append (contributes_bindings name _ _ _)
    |>.append (inert "stack" id _ _ (by decide))
    |>.append (inert "timeout" _ _ _ (by decide))

/-- An application contributes what its path and its manifest do. -/
theorem contributes_application (name : String) (path : Path) (live desired : Application) :
    Contributes name (Application.diff path live desired)
      (applicationContributions name path live desired) := by
  have inert (field : String) :=
    contributes_inert (α := String) name ⟨path, .application desired⟩ field id
  exact inert "path" _ _ (by decide)
    |>.append (inert "meta" _ _ (by decide))
    |>.append (contributes_manifest name _ live.manifest desired.manifest)

/-! ### From contributions to calls -/

section

variable (name : String) {γ : Type}

theorem foldl_ite_singleton {δ : Type} {p : Prop} [Decidable p] (f : γ → δ → γ) (start : γ)
    (given : δ) :
    (if p then [] else [given]).foldl f start = if p then start else f start given := by
  split <;> rfl

/-- What ignores warnings ignores changes that no call makes. -/
theorem foldl_noCall (f : γ → Contribution → γ) (start : γ) (changes : List Change)
    (ignores : ∀ state message, f state (.warning message) = state) :
    (changes.map (noCall name)).foldl f start = start := by
  induction changes generalizing start with
  | nil => rfl
  | cons change rest ih => rw [List.map_cons, List.foldl_cons, noCall, ignores, ih]

end

/-- A scaling after one more contribution. -/
def addSize (scale : Scale) : Contribution → Scale
  | .size dimension size => dimension.set size scale
  | _ => scale

/-- The manifest of the last contribution to the health check, after one more contribution. -/
def lastHealthCheck (last : Option Manifest) : Contribution → Option Manifest
  | .healthCheck manifest => some manifest
  | _ => last

theorem scaleOf_eq (given : List Contribution) : scaleOf given = given.foldl addSize {} := rfl

theorem healthCheckOf_eq (given : List Contribution) :
    healthCheckOf given = given.foldl lastHealthCheck none := rfl

/-- Adding a size sets its own dimension, unless the manifest has none. -/
theorem addSize_sizeContribution (name : String) (scale : Scale) (manifest : Manifest) :
    addSize scale (sizeContribution name .instances manifest) =
        { scale with instances := manifest.instances.or scale.instances } ∧
      addSize scale (sizeContribution name .memory manifest) =
        { scale with memory := manifest.memory.or scale.memory } ∧
      addSize scale (sizeContribution name .disk manifest) =
        { scale with disk := manifest.disk.or scale.disk } := by
  simp only [sizeContribution, Dimension.sizeIn]
  refine ⟨?_, ?_, ?_⟩
  · cases manifest.instances <;> rfl
  · cases manifest.memory <;> rfl
  · cases manifest.disk <;> rfl

theorem lastHealthCheck_sizeContribution (name : String) (last : Option Manifest)
    (dimension : Dimension) (manifest : Manifest) :
    lastHealthCheck last (sizeContribution name dimension manifest) = last := by
  rw [sizeContribution]
  split <;> rfl

theorem callList_sizeContribution (name : String) (dimension : Dimension) (manifest : Manifest) :
    (sizeContribution name dimension manifest).callList = [] := by
  rw [sizeContribution]
  split <;> rfl

theorem flatMap_callList_noCall (name : String) (changes : List Change) :
    (changes.map (noCall name)).flatMap Contribution.callList = [] := by
  simp [noCall, Contribution.callList]

theorem flatMap_callList_ite {p : Prop} [Decidable p] (given : Contribution) :
    (if p then [] else [given]).flatMap Contribution.callList =
      if p then [] else given.callList := by
  split <;> simp

theorem ite_isEmpty {δ : Type} (list : List δ) : (if list.isEmpty then [] else list) = list := by
  cases list <;> rfl

section

-- Calls, sizes and the health check are collected apart from each other, each in the order of the
-- changes, so that each of the three passes over everything else.

variable (name : String) (path : Path) (live desired : Application)

theorem callList_applicationContributions :
    (applicationContributions name path live desired).flatMap Contribution.callList =
      (mapDelta live.manifest.environmentVariables desired.manifest.environmentVariables).map
          (environmentCall name) ++
        bindingCalls name live.manifest.services desired.manifest.services := by
  have made (calls : List Call) : (Contribution.calls calls).callList = calls := rfl
  have check (manifest : Manifest) : (Contribution.healthCheck manifest).callList = [] := rfl
  have environment := ite_isEmpty ((mapDelta live.manifest.environmentVariables
    desired.manifest.environmentVariables).map (environmentCall name))
  rw [List.isEmpty_map] at environment
  simp only [applicationContributions, manifestContributions, List.flatMap_append,
    flatMap_callList_noCall, flatMap_callList_ite, callList_sizeContribution, made, check,
    environment, ite_isEmpty, ite_self, List.append_nil, List.nil_append]

theorem scaleOf_applicationContributions :
    scaleOf (applicationContributions name path live desired) =
      scaleDelta live.manifest desired.manifest := by
  have ignored (start : Scale) (changes : List Change) :=
    foldl_noCall name addSize start changes fun _ _ => rfl
  have made (start : Scale) (calls : List Call) : addSize start (.calls calls) = start := rfl
  have check (start : Scale) (manifest : Manifest) :
      addSize start (.healthCheck manifest) = start := rfl
  simp only [scaleOf_eq, applicationContributions, manifestContributions, List.foldl_append,
    ignored, foldl_ite_singleton, made, check, ite_self, addSize_sizeContribution, scaleDelta]
  split_ifs <;> simp

/-- The health check that is kept is the desired one, if it differs. -/
theorem healthCheckOf_applicationContributions :
    healthCheckOf (applicationContributions name path live desired) =
      healthCheckDelta live.manifest desired.manifest := by
  have ignored (start : Option Manifest) (changes : List Change) :=
    foldl_noCall name lastHealthCheck start changes fun _ _ => rfl
  have made (start : Option Manifest) (calls : List Call) :
      lastHealthCheck start (.calls calls) = start := rfl
  have check (start : Option Manifest) (manifest : Manifest) :
      lastHealthCheck start (.healthCheck manifest) = some manifest := rfl
  simp only [healthCheckOf_eq, applicationContributions, manifestContributions,
    List.foldl_append, ignored, foldl_ite_singleton, made, check, ite_self,
    lastHealthCheck_sizeContribution, healthCheckDelta]
  split_ifs <;> simp_all

/-- The changes between two applications make up the calls between their manifests. -/
theorem callsOf_application :
    callsOf name (applicationContributions name path live desired) =
      manifestCalls name live.manifest desired.manifest := by
  rw [callsOf, callList_applicationContributions, scaleOf_applicationContributions,
    healthCheckOf_applicationContributions, manifestCalls]

end

end CloudSpace.Plan
