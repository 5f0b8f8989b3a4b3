import CloudSpace.Change.Basic

/-!
# Differences between spaces

The changes that turn a live space into a desired one: first the applications, then the
services, then the developers. Of each keyed section the desired entities come first, by name,
added as a whole or compared field by field, and then the live ones that are not desired. Lists
are compared as sets and maps key by key.
-/
namespace CloudSpace

/-- What is to be added to one list and removed from it to make it the other, as sets. -/
def collectionDelta (live desired : List String) : List String × List String :=
  (distinctSorted (desired.filter (fun name => !live.contains name)),
   distinctSorted (live.filter (fun name => !desired.contains name)))

/-- The change of one key, if its values differ. -/
def entryDelta (live desired : NameMap String) (key : String) : Option EntryChange :=
  match live.get? key, desired.get? key with
  | none, some after => some ⟨key, .added, none, some after⟩
  | some before, none => some ⟨key, .removed, some before, none⟩
  | some before, some after =>
    if before = after then none else some ⟨key, .changed, some before, some after⟩
  | none, none => none

/-- The changes of the keys that differ, ascending. -/
def mapDelta (live desired : NameMap String) : List EntryChange :=
  (distinctSorted (live.keys ++ desired.keys)).filterMap (entryDelta live desired)

/-! ### Fields -/

/-- Where the fields of a record lie, and the record that a change of one carries. -/
structure Owner where
  path : Path
  affected : Affected

namespace Owner

/-- The change of a field with an optional value. -/
def value {α : Type} [DecidableEq α] (owner : Owner) (field : String) (text : α → String)
    (live desired : Option α) : List Change :=
  if live = desired then []
  else [⟨owner.path.child field, owner.affected, .value (live.map text) (desired.map text)⟩]

/-- The change of a field with a text. -/
def text (owner : Owner) (field : String) (live desired : Option String) : List Change :=
  owner.value field id live desired

def word (owner : Owner) (field : String) (live desired : Option UInt32) : List Change :=
  owner.value field (fun word => toString word.toNat) live desired

def flag (owner : Owner) (field : String) (live desired : Option Bool) : List Change :=
  owner.value field (fun flag => if flag then "true" else "false") live desired

/-- The change of a field with a list. -/
def collection (owner : Owner) (field : String) (live desired : List String) : List Change :=
  let (added, removed) := collectionDelta live desired
  if added.isEmpty && removed.isEmpty then []
  else [⟨owner.path.child field, owner.affected, .collection added removed⟩]

/-- The change of a field with a map. -/
def map (owner : Owner) (field : String) (live desired : NameMap String) : List Change :=
  let entries := mapDelta live desired
  if entries.isEmpty then []
  else [⟨owner.path.child field, owner.affected, .map entries⟩]

end Owner

/-! ### Records -/

/-- The changes of a manifest at a path, field by field. -/
def Manifest.diff (path : Path) (live desired : Manifest) : List Change :=
  let owner : Owner := ⟨path, .manifest desired⟩
  owner.text "buildpack" live.buildpack desired.buildpack ++
  owner.text "command" live.command desired.command ++
  owner.word "disk" live.disk desired.disk ++
  owner.text "dockerImage" live.dockerImage desired.dockerImage ++
  owner.text "dockerUsername" live.dockerUsername desired.dockerUsername ++
  owner.map "environmentVariables" live.environmentVariables desired.environmentVariables ++
  owner.text "healthCheckHttpEndpoint" live.healthCheckHttpEndpoint
    desired.healthCheckHttpEndpoint ++
  owner.value "healthCheckType" HealthCheckType.name live.healthCheckType
    desired.healthCheckType ++
  owner.word "instances" live.instances desired.instances ++
  owner.word "memory" live.memory desired.memory ++
  owner.flag "noRoute" live.noRoute desired.noRoute ++
  owner.flag "randomRoute" live.randomRoute desired.randomRoute ++
  owner.text "routePath" live.routePath desired.routePath ++
  owner.collection "routes" live.routes desired.routes ++
  owner.collection "services" live.services desired.services ++
  owner.text "stack" live.stack desired.stack ++
  owner.word "timeout" live.timeout desired.timeout

def Application.diff (path : Path) (live desired : Application) : List Change :=
  let owner : Owner := ⟨path, .application desired⟩
  owner.text "path" live.path desired.path ++
  owner.text "meta" live.metadata desired.metadata ++
  Manifest.diff (path.child "manifest") live.manifest desired.manifest

def Service.diff (path : Path) (live desired : Service) : List Change :=
  let owner : Owner := ⟨path, .service desired⟩
  owner.text "service" (some live.offering) (some desired.offering) ++
  owner.text "plan" (some live.plan) (some desired.plan) ++
  owner.collection "tags" live.tags desired.tags ++
  owner.map "params" live.params desired.params

/-! ### Sections -/

/-- The changes of a keyed section. -/
def NameMap.diff {α : Type} (kind : EntityKind) (wrap : α → Affected)
    (compare : Path → α → α → List Change) (live desired : NameMap α) : List Change :=
  desired.entries.flatMap (fun (name, record) =>
    match live.get? name with
    | some held => compare (.ofEntity kind name) held record
    | none => [⟨.ofEntity kind name, wrap record, .objectAdded⟩]) ++
  live.entries.flatMap (fun (name, record) =>
    if desired.contains name then []
    else [⟨.ofEntity kind name, wrap record, .objectRemoved⟩])

/-- The change of the developers, if they differ as a set. -/
def developersDiff (live desired : List String) : List Change :=
  let (added, removed) := collectionDelta live desired
  if added.isEmpty && removed.isEmpty then []
  else [⟨.ofKind .developers, .developers desired, .collection added removed⟩]

/-- The changes that turn one space into another. -/
def Space.diff (live desired : Space) : List Change :=
  NameMap.diff .applications .application Application.diff live.applications
    desired.applications ++
  NameMap.diff .services .service Service.diff live.services desired.services ++
  developersDiff live.developers desired.developers

end CloudSpace
