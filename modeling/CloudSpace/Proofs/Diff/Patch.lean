import CloudSpace.Proofs.Diff.Exact

/-!
# Changes as a patch

The changes between two spaces suffice to turn the first into the second, up to the order and
repetition of names. Records that come are taken from their changes, and everything else from
paths and differences alone. What a change says was there before is what the first space holds.
-/
namespace CloudSpace

/-! ### Applying a change -/

/-- A map in which a name is bound to a value or not at all. -/
def NameMap.assign {α : Type} (map : NameMap α) (name : String) : Option α → NameMap α
  | some value => map.insert name value
  | none => map.erase name

theorem NameMap.get?_assign {α : Type} (map : NameMap α) (name other : String)
    (value : Option α) :
    (map.assign name value).get? other = if other = name then value else map.get? other := by
  cases value with
  | none => exact map.get?_erase name other
  | some value => exact map.get?_insert name other value

namespace Schema

variable {α : Type} (schema : Schema α)

/-- The field that some steps lead to from a record. -/
def field? (steps : List Segment) : Option (Field α) :=
  schema.fields.find? fun field => field.names.map .field = steps

/-- A record after a difference of a field. -/
def patchField? (steps : List Segment) (difference : Difference) (record : α) : Option α := do
  let field ← schema.field? steps
  let content ← field.type.patch? difference (field.get record)
  return field.set record content

/-- The record of an entity after a change within it. A record that comes is the one that its
change carries; of a change of a field only the path and the difference are read. -/
def patchRecord? (held : Option α) (change : Change) : Option (Option α) :=
  match change.difference with
  | .objectAdded => (schema.unwrap? change.affected).map some
  | .objectRemoved => some none
  | difference => do
    let record ← held
    return some (← schema.patchField? (change.path.segments.drop 2) difference record)

/-- A section after a change in it. -/
def patch? (map : NameMap α) (change : Change) : Option (NameMap α) := do
  let name ← change.path.entity?
  let record ← schema.patchRecord? (map.get? name) change
  return map.assign name record

/-- What a change in a section says was there is what the section holds. -/
inductive StartsFrom (live : NameMap α) : Change → Prop
  | added {name : String} {affected : Affected} (absent : live.get? name = none) :
    StartsFrom live ⟨.ofEntity schema.kind name, affected, .objectAdded⟩
  | removed {name : String} {record : α} (held : live.get? name = some record) :
    StartsFrom live ⟨.ofEntity schema.kind name, schema.wrap record, .objectRemoved⟩
  | field {name : String} {record : α} {field : Field α} {affected : Affected}
    {difference : Difference} (held : live.get? name = some record)
    (isField : field ∈ schema.fields)
    (starts : field.type.StartsFrom difference (field.get record)) :
    StartsFrom live ⟨field.path (.ofEntity schema.kind name), affected, difference⟩

end Schema

namespace Space

/-- A space after a change. -/
def patch? (space : Space) (change : Change) : Option Space :=
  match change.path.kind? with
  | some .applications => (Application.schema.patch? space.applications change).map
      fun applications => { space with applications }
  | some .services => (Service.schema.patch? space.services change).map
      fun services => { space with services }
  | some .developers => (FieldType.names.patch? change.difference space.developers).map
      fun developers => { space with developers }
  | none => none

/-- What a change says was there is what the space holds. -/
inductive StartsFrom (live : Space) : Change → Prop
  | application {change : Change}
    (starts : Application.schema.StartsFrom live.applications change) : StartsFrom live change
  | service {change : Change}
    (starts : Service.schema.StartsFrom live.services change) : StartsFrom live change
  | developers {affected : Affected} {difference : Difference}
    (starts : FieldType.names.StartsFrom difference live.developers) :
    StartsFrom live ⟨.ofKind .developers, affected, difference⟩

end Space

/-! ### One record -/

theorem FieldType.Agrees.refl (type : FieldType) (content : type.Content) :
    type.Agrees content content := by
  cases type with
  | names => exact fun _ => .rfl
  | _ => rfl

namespace Schema

variable {α : Type} {schema : Schema α}

theorem field?_of_mem {field : Field α} (isField : field ∈ schema.fields) :
    schema.field? (field.names.map .field) = some field := by
  have found : (schema.field? (field.names.map .field)).isSome :=
    List.find?_isSome.mpr ⟨field, isField, by simp⟩
  obtain ⟨other, isOther⟩ := Option.isSome_iff_exists.mp found
  have names : other.names.map Segment.field = field.names.map Segment.field := by
    simpa using List.find?_some isOther
  -- The steps tell the fields of a record apart.
  have same : other.names = field.names :=
    List.map_injective_iff.mpr (fun _ _ equal => Segment.field.inj equal) names
  rw [isOther, schema.field_eq_of_names (List.mem_of_find?_eq_some isOther) isField same]

/-- The change of a field makes the field of a record agree with the one desired, whatever else
the record holds. -/
theorem patchRecord?_change? {field : Field α} (isField : field ∈ schema.fields) {name : String}
    {live desired record : α} {change : Change}
    (changed : field.change? (.ofEntity schema.kind name) live desired = some change)
    (unchanged : field.get record = field.get live) :
    ∃ content, schema.patchRecord? (some record) change = some (some (field.set record content)) ∧
      field.type.Agrees content (field.get desired) := by
  obtain ⟨difference, differs, rfl⟩ := Option.map_eq_some_iff.mp changed
  obtain ⟨content, patched, agrees⟩ := FieldType.patch?_of_difference? differs
  have set : schema.patchField? ((field.path (.ofEntity schema.kind name)).segments.drop 2)
      difference record = some (field.set record content) := by
    have steps : (field.path (.ofEntity schema.kind name)).segments.drop 2 =
      field.names.map .field := rfl
    rw [patchField?, steps, field?_of_mem isField]
    simp [unchanged, patched]
  have separates := FieldType.separates_of_difference? differs
  refine ⟨content, ?_, agrees⟩
  -- A change of a field neither adds nor removes the record.
  cases difference with
  | objectAdded => exact absurd rfl separates.ne_objectAdded
  | objectRemoved => exact absurd rfl separates.ne_objectRemoved
  | _ => simp [patchRecord?, set]

/-- Applying the changes of some fields makes these fields agree and leaves the others. -/
theorem foldlM_patchRecord? (name : String) (live desired : α) (fields : List (Field α))
    (included : ∀ field ∈ fields, field ∈ schema.fields) (apart : fields.Pairwise Field.Apart)
    (record : α) (unchanged : ∀ field ∈ fields, field.get record = field.get live) :
    ∃ patched,
      (fields.filterMap (·.change? (.ofEntity schema.kind name) live desired)).foldlM
        schema.patchRecord? (some record) = some (some patched) ∧
      (∀ field ∈ fields, field.Agrees patched desired) ∧
      ∀ other : Field α, (∀ field ∈ fields, other.Apart field) →
        other.get patched = other.get record := by
  -- The fields to come are as they were at first, whatever was done to the ones before.
  induction fields generalizing record with
  | nil => exact ⟨record, rfl, by simp, fun _ _ => rfl⟩
  | cons field rest ih =>
    obtain ⟨isField, includedRest⟩ := List.forall_mem_cons.mp included
    obtain ⟨fromRest, apartRest⟩ := List.pairwise_cons.mp apart
    obtain ⟨same, sameRest⟩ := List.forall_mem_cons.mp unchanged
    cases changed : field.change? (.ofEntity schema.kind name) live desired with
    -- The field does not change, so that nothing is done to it and it agrees already.
    | none =>
      have agrees : field.Agrees live desired := by
        rwa [Field.change?, Option.map_eq_none_iff, FieldType.difference?_eq_none_iff] at changed
      obtain ⟨patched, folds, agreesRest, kept⟩ := ih includedRest apartRest record sameRest
      refine ⟨patched, by simpa only [List.filterMap_cons, changed] using folds, ?_, ?_⟩
      · refine List.forall_mem_cons.mpr ⟨?_, agreesRest⟩
        rwa [Field.Agrees, kept field fromRest, same]
      · exact fun other apartOther => kept other (List.forall_mem_cons.mp apartOther).2
    -- The field is set, which leaves those to come as they are; after them it is still as it was
    -- set.
    | some change =>
      obtain ⟨content, set, agrees⟩ := patchRecord?_change? isField changed same
      obtain ⟨patched, folds, agreesRest, kept⟩ := ih includedRest apartRest
        (field.set record content) fun other member => by
          rw [(fromRest other member).right, sameRest other member]
      refine ⟨patched, ?_, ?_, ?_⟩
      · simp only [List.filterMap_cons, changed, List.foldlM_cons, set]
        exact folds
      · refine List.forall_mem_cons.mpr ⟨?_, agreesRest⟩
        rwa [Field.Agrees, kept field fromRest, field.get_set]
      · intro other apartOther
        obtain ⟨apartField, apartRest⟩ := List.forall_mem_cons.mp apartOther
        rw [kept other apartRest, apartField.left]

/-- Applying the changes under a name leads to the record that is desired there. -/
theorem foldlM_entityDiff (name : String) (live desired : Option α) :
    ∃ patched, (schema.entityDiff name live desired).foldlM schema.patchRecord? live =
      some patched ∧ Option.Rel schema.Agrees patched desired := by
  -- An entity that comes or goes is one change; one that stays goes through the changes of its
  -- fields.
  cases live with
  | none =>
    cases desired with
    | none => exact ⟨none, rfl, .none⟩
    | some record =>
      refine ⟨some record, ?_, .some ?_⟩
      · simp [patchRecord?, schema.unwrap?_wrap]
      · exact (schema.agrees_iff _ _).mpr fun field _ => .refl _ _
  | some held =>
    cases desired with
    | none => exact ⟨none, by simp [patchRecord?], .none⟩
    | some record =>
      obtain ⟨patched, folds, agrees, _⟩ := foldlM_patchRecord? name held record schema.fields
        (fun _ member => member) schema.apart held fun _ _ => rfl
      refine ⟨some patched, ?_, .some ((schema.agrees_iff _ _).mpr agrees)⟩
      rw [entityDiff_compared, schema.compare_eq]
      exact folds

/-! ### One section -/

/-- Applying changes within entities changes each entity as the changes within it do. -/
theorem foldlM_patch? {changes : List Change} {live : NameMap α} {result : String → Option α}
    (within : ∀ change ∈ changes, ∃ name, change.isWithin schema.kind name = true)
    (each : ∀ name, (changes.filter (·.isWithin schema.kind name)).foldlM schema.patchRecord?
      (live.get? name) = some (result name)) :
    ∃ patched, changes.foldlM schema.patch? live = some patched ∧
      ∀ name, patched.get? name = result name := by
  induction changes generalizing live with
  | nil => exact ⟨live, rfl, fun name => Option.some.inj (each name)⟩
  | cons change rest ih =>
    obtain ⟨name, inside⟩ := within change List.mem_cons_self
    -- The change is the first of its entity and of no other.
    have first := each name
    rw [List.filter_cons, if_pos inside, List.foldlM_cons] at first
    obtain ⟨record, set, folds⟩ := Option.bind_eq_some_iff.mp first
    have step : schema.patch? live change = some (live.assign name record) := by
      have entity : change.path.entity? = some name := by
        simp only [Change.isWithin, Bool.and_eq_true, decide_eq_true_eq] at inside
        exact inside.2
      simp [patch?, entity, set]
    have eachRest : ∀ other, (rest.filter (·.isWithin schema.kind other)).foldlM
        schema.patchRecord? ((live.assign name record).get? other) = some (result other) := by
      intro other
      rw [NameMap.get?_assign]
      split
      next same => exact same ▸ folds
      next distinct =>
        have outside : ¬ change.isWithin schema.kind other = true :=
          fun insideOther => distinct (isWithin_inj insideOther inside)
        simpa only [List.filter_cons, if_neg outside] using each other
    obtain ⟨patched, foldsRest, lookups⟩ :=
      ih (fun other member => within other (List.mem_cons_of_mem _ member)) eachRest
    exact ⟨patched, by rw [List.foldlM_cons, step]; exact foldsRest, lookups⟩

/-- Applying the changes of a section leads to the section that is desired. -/
theorem foldlM_diff (live desired : NameMap α) :
    ∃ patched, (schema.diff live desired).foldlM schema.patch? live = some patched ∧
      ∀ name, Option.Rel schema.Agrees (patched.get? name) (desired.get? name) := by
  choose result folds agrees using
    fun name => schema.foldlM_entityDiff name (live.get? name) (desired.get? name)
  have each (name : String) : ((schema.diff live desired).filter
      (·.isWithin schema.kind name)).foldlM schema.patchRecord? (live.get? name) =
        some (result name) := by
    rw [filter_diff]
    exact folds name
  obtain ⟨patched, foldsAll, lookups⟩ :=
    foldlM_patch? (fun change member => isWithin_of_mem_diff member) each
  exact ⟨patched, foldsAll, fun name => lookups name ▸ agrees name⟩

/-- Exact changes of a section start from what it holds. -/
theorem Exact.startsFrom {live desired : NameMap α} {changes : List Change}
    (exact : schema.Exact live desired changes) {change : Change} (member : change ∈ changes)
    (isKind : change.path.kind? = some schema.kind) : schema.StartsFrom live change := by
  obtain ⟨path, affected, difference⟩ := change
  -- A change is at the path of an entity or of a field within one, and starts from what is there.
  obtain ⟨name, ⟨here, added | removed⟩ | ⟨held, wanted, field, isField, here⟩⟩ :=
    exact.placed _ member isKind
  · subst here added
    exact .added ((exact.added name affected).mp member).1
  · subst here removed
    obtain ⟨_, record, held, rfl⟩ := (exact.removed name affected).mp member
    exact .removed held
  · obtain ⟨record, isHeld⟩ := Option.isSome_iff_exists.mp held
    obtain ⟨_, isWanted⟩ := Option.isSome_iff_exists.mp wanted
    subst here
    have exactAt := exact.fields name record _ isHeld isWanted field isField
    exact .field isHeld isField (exactAt.separates _ member rfl).2.startsFrom

end Schema

/-! ### One space -/

/-- Changes of one part of a state are applied to the part. -/
theorem foldlM_part {σ τ : Type} {step : σ → Change → Option σ} {stepPart : τ → Change → Option τ}
    (put : τ → σ) {part after : τ} {changes : List Change}
    (onPart : ∀ change ∈ changes, ∀ part, step (put part) change = (stepPart part change).map put)
    (folds : changes.foldlM stepPart part = some after) :
    changes.foldlM step (put part) = some (put after) := by
  induction changes generalizing part with
  | nil => exact congrArg (some ∘ put) (Option.some.inj folds)
  | cons change rest ih =>
    rw [List.foldlM_cons] at folds
    obtain ⟨next, set, foldsRest⟩ := Option.bind_eq_some_iff.mp folds
    rw [List.foldlM_cons, onPart change List.mem_cons_self, set]
    exact ih (fun other member => onPart other (List.mem_cons_of_mem _ member)) foldsRest

theorem foldlM_developersDiff (live desired : List String) :
    ∃ patched, (developersDiff live desired).foldlM
      (fun held change => FieldType.names.patch? change.difference held) live = some patched ∧
      SameMembers patched desired := by
  rw [developersDiff_eq]
  cases differs : namesDifference? live desired with
  | none => exact ⟨live, rfl, namesDifference?_eq_none_iff.mp differs⟩
  | some difference =>
    have isDifference : FieldType.names.difference? live desired = some difference := differs
    obtain ⟨patched, set, agrees⟩ := FieldType.patch?_of_difference? isDifference
    exact ⟨patched, by simpa using set, agrees⟩

theorem foldlM_patch?_diff (live desired : Space) :
    ∃ patched, (live.diff desired).foldlM Space.patch? live = some patched ∧
      patched.Agrees desired := by
  obtain ⟨applications, foldsApplications, agreesApplications⟩ :=
    Application.schema.foldlM_diff live.applications desired.applications
  obtain ⟨services, foldsServices, agreesServices⟩ :=
    Service.schema.foldlM_diff live.services desired.services
  obtain ⟨developers, foldsDevelopers, agreesDevelopers⟩ :=
    foldlM_developersDiff live.developers desired.developers
  -- The changes of each kind find its part of the space as it was.
  have first : (Application.schema.diff live.applications desired.applications).foldlM
      Space.patch? live = some { live with applications } := by
    refine foldlM_part (fun applications => { live with applications }) ?_ foldsApplications
    intro change member part
    rw [Space.patch?, Schema.kind?_of_mem_diff member]
    rfl
  have second : (Service.schema.diff live.services desired.services).foldlM
      Space.patch? { live with applications } = some { live with applications, services } := by
    refine foldlM_part (fun services => { live with applications, services }) ?_ foldsServices
    intro change member part
    rw [Space.patch?, Schema.kind?_of_mem_diff member]
    rfl
  have third : (developersDiff live.developers desired.developers).foldlM
      Space.patch? { live with applications, services } =
        some ⟨applications, services, developers⟩ := by
    refine foldlM_part (Space.mk applications services) ?_ foldsDevelopers
    intro change member part
    rw [Space.patch?, path_of_mem_developersDiff member]
    rfl
  have split : live.diff desired =
      Application.schema.diff live.applications desired.applications ++
        (Service.schema.diff live.services desired.services ++
          developersDiff live.developers desired.developers) := List.append_assoc ..
  -- One section after the other has been brought forward, so that all of them are as desired.
  refine ⟨⟨applications, services, developers⟩, ?_,
    ⟨agreesApplications, agreesServices, agreesDevelopers⟩⟩
  rw [split, List.foldlM_append, first, Option.bind_eq_bind, Option.bind_some,
    List.foldlM_append, second, Option.bind_eq_bind, Option.bind_some, third]

theorem startsFrom_of_mem_diff {live desired : Space} {change : Change}
    (member : change ∈ live.diff desired) : live.StartsFrom change := by
  rw [diff_eq_flatMap, List.mem_flatMap] at member
  obtain ⟨kind, _, inSection⟩ := member
  have isKind := kind?_of_mem_sectionDiff inSection
  -- By the kind that the path of the change belongs to.
  cases kind with
  | applications => exact .application ((Schema.exact_diff _ _).startsFrom inSection isKind)
  | services => exact .service ((Schema.exact_diff _ _).startsFrom inSection isKind)
  | developers =>
    rw [Space.sectionDiff, developersDiff_eq, Option.mem_toList] at inSection
    obtain ⟨difference, differs, rfl⟩ := Option.map_eq_some_iff.mp inSection
    have separates : FieldType.names.Separates difference live.developers desired.developers :=
      FieldType.separates_of_difference? differs
    exact .developers separates.startsFrom

/-- The changes between two spaces turn the first into the second, and what they say was there
is what the first holds. -/
theorem patch_diff (live desired : Space) :
    (∃ patched, (live.diff desired).foldlM Space.patch? live = some patched ∧
      patched.Agrees desired) ∧
    ∀ change ∈ live.diff desired, live.StartsFrom change :=
  ⟨foldlM_patch?_diff live desired, fun _ => startsFrom_of_mem_diff⟩

/-- A number, a map and a list are patched; what the list repeats is left alone. -/
example :
    let app (memory : UInt32) (routes : List String) (settings : List (String × String)) :
        Application :=
      { manifest := { memory := some memory, routes, environmentVariables := .ofList settings } }
    let live : Space :=
      { applications := .ofList [("web", app 256 ["b", "a", "a"] [("A", "1"), ("B", "2")])] }
    let desired : Space :=
      { applications := .ofList [("web", app 1024 ["a", "c"] [("B", "3"), ("C", "4")])] }
    (live.diff desired).foldlM Space.patch? live = some
      { applications := .ofList [("web", app 1024 ["a", "a", "c"] [("B", "3"), ("C", "4")])] } := by
  decide +kernel

end CloudSpace
