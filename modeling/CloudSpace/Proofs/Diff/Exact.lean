import CloudSpace.Proofs.Diff

/-!
# The differ is exact

Two spaces give rise to one change for each place in which they differ and to no other: a
record that comes or goes, a field of a record that is in both, or the developers. A change of
a field carries the desired record that owns it and holds just what separates the two contents.
No change is left exactly if the spaces agree.
-/
namespace CloudSpace

/-! ### What exact changes are -/

/-- There is a change at a path exactly if the contents there do not agree. It carries the record
that owns them and holds what separates them. -/
structure ExactAt (changes : List Change) (path : Path) (owner : Affected) (type : FieldType)
    (held wanted : type.Content) : Prop where
  differs : (∃ change ∈ changes, change.path = path) ↔ ¬ type.Agrees held wanted
  separates : ∀ change ∈ changes, change.path = path →
    change.affected = owner ∧ type.Separates change.difference held wanted

/-- The changes in a keyed section say exactly how it differs from another. -/
structure Schema.Exact {α : Type} (schema : Schema α) (live desired : NameMap α)
    (changes : List Change) : Prop where
  added : ∀ name affected, ⟨.ofEntity schema.kind name, affected, .objectAdded⟩ ∈ changes ↔
    live.get? name = none ∧ ∃ record, desired.get? name = some record ∧
      affected = schema.wrap record
  removed : ∀ name affected, ⟨.ofEntity schema.kind name, affected, .objectRemoved⟩ ∈ changes ↔
    desired.get? name = none ∧ ∃ held, live.get? name = some held ∧
      affected = schema.wrap held
  fields : ∀ name held record, live.get? name = some held → desired.get? name = some record →
    ∀ field ∈ schema.fields, ExactAt changes (field.path (.ofEntity schema.kind name))
      (field.owner record) field.type (field.get held) (field.get record)
  /-- There are no other changes in the section. -/
  placed : ∀ change ∈ changes, change.path.kind? = some schema.kind → ∃ name,
    (change.path = .ofEntity schema.kind name ∧
      (change.difference = .objectAdded ∨ change.difference = .objectRemoved)) ∨
    (live.get? name).isSome ∧ (desired.get? name).isSome ∧
      ∃ field ∈ schema.fields, change.path = field.path (.ofEntity schema.kind name)

/-- Changes say exactly how a space differs from another, and no place is named twice. -/
structure Space.ExactDiff (live desired : Space) (changes : List Change) : Prop where
  distinct : (changes.map (·.path)).Nodup
  applications : Application.schema.Exact live.applications desired.applications changes
  services : Service.schema.Exact live.services desired.services changes
  developers : ExactAt changes (.ofKind .developers) (.developers desired.developers) .names
    live.developers desired.developers
  /-- There are no other changes. -/
  placed : ∀ change ∈ changes, change.path.kind? = some .applications ∨
    change.path.kind? = some .services ∨ change.path = .ofKind .developers
  empty : changes = [] ↔ live.Agrees desired

/-! ### One place -/

/-- Where a list has at most the difference of one place there, it is exact at that place. -/
theorem exactAt_of_difference? {changes : List Change} {path : Path} {owner : Affected}
    {type : FieldType} {held wanted : type.Content}
    (here : ∀ change, change.path = path → (change ∈ changes ↔
      (type.difference? held wanted).map (Change.mk path owner) = some change)) :
    ExactAt changes path owner type held wanted := by
  constructor
  · rw [← FieldType.difference?_eq_none_iff, ← ne_eq, Option.ne_none_iff_exists']
    constructor
    · rintro ⟨change, member, same⟩
      obtain ⟨difference, differs, _⟩ := Option.map_eq_some_iff.mp ((here change same).mp member)
      exact ⟨difference, differs⟩
    · rintro ⟨difference, differs⟩
      exact ⟨⟨path, owner, difference⟩, (here _ rfl).mpr (by rw [differs]; rfl), rfl⟩
  · intro change member same
    obtain ⟨difference, differs, rfl⟩ := Option.map_eq_some_iff.mp ((here change same).mp member)
    exact ⟨rfl, FieldType.separates_of_difference? differs⟩

/-- Exactness at a place depends only on the changes at that place. -/
theorem ExactAt.congr {changes others : List Change} {path : Path} {owner : Affected}
    {type : FieldType} {held wanted : type.Content}
    (exact : ExactAt changes path owner type held wanted)
    (same : ∀ change, change.path = path → (change ∈ others ↔ change ∈ changes)) :
    ExactAt others path owner type held wanted := by
  refine ⟨?_, ?_⟩
  · rw [← exact.differs]
    constructor
    · rintro ⟨change, member, here⟩
      exact ⟨change, (same change here).mp member, here⟩
    · rintro ⟨change, member, here⟩
      exact ⟨change, (same change here).mpr member, here⟩
  · intro change member here
    exact exact.separates change ((same change here).mp member) here

/-! ### One section -/

theorem Field.kind?_path {α : Type} (field : Field α) (kind : EntityKind) (name : String) :
    (field.path (.ofEntity kind name)).kind? = some kind := rfl

theorem Field.entity?_path {α : Type} (field : Field α) (kind : EntityKind) (name : String) :
    (field.path (.ofEntity kind name)).entity? = some name := rfl

namespace Schema

variable {α : Type} (schema : Schema α)

/-- The changes of the section. -/
def diff (live desired : NameMap α) : List Change :=
  NameMap.diff schema.kind schema.wrap schema.compare live desired

/-- The changes under one name. -/
def entityDiff (name : String) (live desired : Option α) : List Change :=
  CloudSpace.entityDiff schema.kind schema.wrap schema.compare name live desired

section

variable (name : String) (held record : α)

@[simp] theorem entityDiff_absent : schema.entityDiff name none none = [] := rfl

@[simp] theorem entityDiff_added : schema.entityDiff name none (some record) =
    [⟨.ofEntity schema.kind name, schema.wrap record, .objectAdded⟩] := rfl

@[simp] theorem entityDiff_removed : schema.entityDiff name (some held) none =
    [⟨.ofEntity schema.kind name, schema.wrap held, .objectRemoved⟩] := rfl

@[simp] theorem entityDiff_compared : schema.entityDiff name (some held) (some record) =
    schema.compare (.ofEntity schema.kind name) held record := rfl

end

variable {schema} {live desired : NameMap α} {change : Change} {name : String}

theorem filter_diff (live desired : NameMap α) (name : String) :
    (schema.diff live desired).filter (·.isWithin schema.kind name) =
      schema.entityDiff name (live.get? name) (desired.get? name) :=
  CloudSpace.filter_diff _ _ _ schema.fieldsOf live desired name

theorem isWithin_of_mem_diff (member : change ∈ schema.diff live desired) :
    ∃ name, change.isWithin schema.kind name = true := by
  obtain ⟨name, _, within⟩ := CloudSpace.isWithin_of_mem_diff _ _ _ schema.fieldsOf member
  exact ⟨name, within⟩

theorem mem_diff_of_isWithin (within : change.isWithin schema.kind name = true) :
    change ∈ schema.diff live desired ↔
      change ∈ schema.entityDiff name (live.get? name) (desired.get? name) := by
  rw [← filter_diff, List.mem_filter]
  simp [within]

theorem kind?_of_mem_diff (member : change ∈ schema.diff live desired) :
    change.path.kind? = some schema.kind := by
  obtain ⟨_, within⟩ := isWithin_of_mem_diff member
  simp only [Change.isWithin, Bool.and_eq_true, decide_eq_true_eq] at within
  exact within.1

theorem nodup_entityDiff (name : String) (live desired : Option α) :
    ((schema.entityDiff name live desired).map (·.path)).Nodup := by
  cases live <;> cases desired
  · simp
  · simp
  · simp
  · exact schema.nodup_compare _ _ _

/-- Changes within entities are in distinct places if those within each entity are. -/
theorem nodup_of_filter (kind : EntityKind) {changes : List Change}
    (within : ∀ change ∈ changes, ∃ name, change.isWithin kind name = true)
    (each : ∀ name, ((changes.filter (·.isWithin kind name)).map (·.path)).Nodup) :
    (changes.map (·.path)).Nodup := by
  induction changes with
  | nil => exact List.nodup_nil
  | cons change rest ih =>
    rw [List.map_cons, List.nodup_cons]
    constructor
    · intro again
      obtain ⟨other, member, same⟩ := List.mem_map.mp again
      obtain ⟨name, inside⟩ := within change List.mem_cons_self
      -- The same path lies within the same entity.
      have insideOther : other.isWithin kind name = true := by
        rwa [Change.isWithin, same, ← Change.isWithin]
      have distinct := each name
      rw [List.filter_cons, if_pos inside, List.map_cons, List.nodup_cons] at distinct
      exact distinct.1 (same ▸ List.mem_map_of_mem (List.mem_filter.mpr ⟨member, insideOther⟩))
    · refine ih (fun other member => within other (List.mem_cons_of_mem _ member)) fun name => ?_
      exact (each name).sublist (((List.sublist_cons_self _ _).filter _).map _)

theorem nodup_diff (live desired : NameMap α) :
    ((schema.diff live desired).map (·.path)).Nodup := by
  apply nodup_of_filter schema.kind
  · exact fun change member => isWithin_of_mem_diff member
  · intro name
    rw [filter_diff]
    exact nodup_entityDiff _ _ _

/-- A section does not change exactly where its entities agree, name by name. -/
theorem diff_eq_nil_iff : schema.diff live desired = [] ↔
    ∀ name, Option.Rel schema.Agrees (live.get? name) (desired.get? name) := by
  have each (name : String) : schema.entityDiff name (live.get? name) (desired.get? name) = [] ↔
      Option.Rel schema.Agrees (live.get? name) (desired.get? name) := by
    cases live.get? name <;> cases desired.get? name <;> simp [schema.compare_eq_nil_iff]
  simp only [← each]
  constructor
  · intro empty name
    rw [← filter_diff, empty, List.filter_nil]
  · intro empty
    -- Every change lies within some entity, and none has any.
    apply List.eq_nil_iff_forall_not_mem.mpr
    intro change member
    obtain ⟨name, within⟩ := isWithin_of_mem_diff member
    rw [mem_diff_of_isWithin within, empty name] at member
    cases member

/-- An entity is added exactly where there is none and one is desired, and with that one. -/
theorem mem_diff_added {affected : Affected} :
    ⟨.ofEntity schema.kind name, affected, .objectAdded⟩ ∈ schema.diff live desired ↔
      live.get? name = none ∧ ∃ record, desired.get? name = some record ∧
        affected = schema.wrap record := by
  have within : Change.isWithin ⟨.ofEntity schema.kind name, affected, .objectAdded⟩
      schema.kind name = true := by simp [isWithin_ofEntity]
  rw [mem_diff_of_isWithin within]
  cases live.get? name with
  | none => cases desired.get? name <;> simp
  | some held =>
    simp only [reduceCtorEq, false_and, iff_false]
    cases desired.get? name with
    | none => simp
    | some record =>
      -- Two records that are compared give rise to changes of fields only.
      intro member
      have isField := schema.fieldsOf _ _ _ _ member
      simpa [Change.isObjectAdded] using isField.noAddition

/-- An entity is removed exactly where there is one and none is desired, and with that one. -/
theorem mem_diff_removed {affected : Affected} :
    ⟨.ofEntity schema.kind name, affected, .objectRemoved⟩ ∈ schema.diff live desired ↔
      desired.get? name = none ∧ ∃ held, live.get? name = some held ∧
        affected = schema.wrap held := by
  have within : Change.isWithin ⟨.ofEntity schema.kind name, affected, .objectRemoved⟩
      schema.kind name = true := by simp [isWithin_ofEntity]
  rw [mem_diff_of_isWithin within]
  cases desired.get? name with
  | none => cases live.get? name <;> simp
  | some record =>
    -- Both are there, so that there are only changes of fields, and none of these removes anything.
    simp only [reduceCtorEq, false_and, iff_false]
    cases live.get? name with
    | none => simp
    | some held =>
      intro member
      have isField := schema.fieldsOf _ _ _ _ member
      simpa [Change.isObjectRemoved] using isField.noRemoval

/-- The changes of a section are exact: they say what differs, and where. -/
theorem exact_diff (live desired : NameMap α) :
    schema.Exact live desired (schema.diff live desired) where
  added _ _ := mem_diff_added
  removed _ _ := mem_diff_removed
  fields name held record isHeld isWanted field isField := by
    apply exactAt_of_difference?
    intro change here
    have within : change.isWithin schema.kind name = true := by
      simp [Change.isWithin, here, Field.kind?_path, Field.entity?_path]
    rw [mem_diff_of_isWithin within, isHeld, isWanted]
    exact schema.mem_compare_at isField here
  placed change member _ := by
    obtain ⟨name, within⟩ := isWithin_of_mem_diff member
    rw [mem_diff_of_isWithin within] at member
    -- Whether an entity comes, goes or stays decides what can be at its path.
    refine ⟨name, ?_⟩
    cases held : live.get? name <;> cases wanted : desired.get? name <;>
      simp only [held, wanted, entityDiff_absent, entityDiff_added, entityDiff_removed,
        entityDiff_compared, List.mem_singleton, List.not_mem_nil] at member
    · subst member; simp
    · subst member; simp
    · obtain ⟨field, isField, changed⟩ := schema.mem_compare.mp member
      exact .inr ⟨rfl, rfl, field, isField, Field.path_of_change? changed⟩

/-- Exactness depends only on the changes of the kind. -/
theorem Exact.congr {changes others : List Change} (exact : schema.Exact live desired changes)
    (same : ∀ change, change.path.kind? = some schema.kind →
      (change ∈ others ↔ change ∈ changes)) : schema.Exact live desired others where
  added name affected := (same _ rfl).trans (exact.added name affected)
  removed name affected := (same _ rfl).trans (exact.removed name affected)
  fields name held record isHeld isWanted field isField :=
    (exact.fields name held record isHeld isWanted field isField).congr fun change here =>
      same change (here ▸ field.kind?_path schema.kind name)
  placed change member isKind := exact.placed change ((same change isKind).mp member) isKind

end Schema

/-! ### One space -/

theorem developersDiff_eq (live desired : List String) :
    developersDiff live desired = ((namesDifference? live desired).map
      (Change.mk (.ofKind .developers) (.developers desired))).toList := by
  rw [toList_map_namesDifference?, developersDiff]

theorem path_of_mem_developersDiff {live desired : List String} {change : Change}
    (member : change ∈ developersDiff live desired) : change.path = .ofKind .developers := by
  rw [developersDiff_eq, Option.mem_toList, Option.map_eq_some_iff] at member
  obtain ⟨_, _, rfl⟩ := member
  rfl

theorem developersDiff_eq_nil_iff {live desired : List String} :
    developersDiff live desired = [] ↔ SameMembers live desired := by
  rw [developersDiff_eq, Option.toList_eq_nil_iff, Option.map_eq_none_iff,
    namesDifference?_eq_none_iff]

/-- The changes of one kind of entity. -/
def Space.sectionDiff (live desired : Space) : EntityKind → List Change
  | .applications => Application.schema.diff live.applications desired.applications
  | .services => Service.schema.diff live.services desired.services
  | .developers => developersDiff live.developers desired.developers

section

variable {live desired : Space} {change : Change} {kind : EntityKind}

/-- The changes of a space are those of its sections, one section after the other. -/
theorem diff_eq_flatMap (live desired : Space) :
    live.diff desired = EntityKind.all.flatMap (live.sectionDiff desired) := by
  simp only [EntityKind.all, List.flatMap_cons, List.flatMap_nil, List.append_nil, Space.diff,
    List.append_assoc]
  rfl

theorem kind?_of_mem_sectionDiff (member : change ∈ live.sectionDiff desired kind) :
    change.path.kind? = some kind := by
  cases kind with
  | applications => exact Schema.kind?_of_mem_diff member
  | services => exact Schema.kind?_of_mem_diff member
  | developers => rw [path_of_mem_developersDiff member]; rfl

/-- The changes of a kind are those of its section. -/
theorem mem_diff_of_kind? (isKind : change.path.kind? = some kind) :
    change ∈ live.diff desired ↔ change ∈ live.sectionDiff desired kind := by
  rw [diff_eq_flatMap, List.mem_flatMap]
  constructor
  · rintro ⟨other, _, member⟩
    cases isKind.symm.trans (kind?_of_mem_sectionDiff member)
    exact member
  · intro member
    exact ⟨kind, by cases kind <;> decide, member⟩

/-- The changes within an entity are those within it of its section. -/
theorem filter_isWithin_diff (live desired : Space) (kind : EntityKind) (name : String) :
    (live.diff desired).filter (·.isWithin kind name) =
      (live.sectionDiff desired kind).filter (·.isWithin kind name) := by
  have elsewhere (other : EntityKind) (distinct : other ≠ kind) :
      (live.sectionDiff desired other).filter (·.isWithin kind name) = [] := by
    apply List.filter_eq_nil_iff.mpr
    intro change member within
    simp only [Change.isWithin, Bool.and_eq_true, decide_eq_true_eq] at within
    exact distinct (Option.some.inj ((kind?_of_mem_sectionDiff member).symm.trans within.1))
  rw [diff_eq_flatMap]
  cases kind <;> simp [EntityKind.all, elsewhere]

theorem filter_diff_application (live desired : Space) (name : String) :
    (live.diff desired).filter (·.isWithin .applications name) =
      Application.schema.entityDiff name (live.applications.get? name)
        (desired.applications.get? name) :=
  (filter_isWithin_diff live desired .applications name).trans
    (@Schema.filter_diff _ Application.schema _ _ _)

theorem filter_diff_service (live desired : Space) (name : String) :
    (live.diff desired).filter (·.isWithin .services name) =
      Service.schema.entityDiff name (live.services.get? name) (desired.services.get? name) :=
  (filter_isWithin_diff live desired .services name).trans
    (@Schema.filter_diff _ Service.schema _ _ _)

/-- No two changes of a space have the same path. -/
theorem nodup_paths_diff (live desired : Space) :
    ((live.diff desired).map (·.path)).Nodup := by
  rw [diff_eq_flatMap, List.map_flatMap, List.nodup_flatMap]
  constructor
  · intro kind _
    cases kind with
    | applications => exact Schema.nodup_diff _ _
    | services => exact Schema.nodup_diff _ _
    | developers =>
      rw [Space.sectionDiff, developersDiff_eq]
      cases namesDifference? live.developers desired.developers <;> simp
  · have distinct : EntityKind.all.Pairwise (· ≠ ·) := by decide
    refine distinct.imp fun {kind other} different path first second => ?_
    obtain ⟨change, member, rfl⟩ := List.mem_map.mp first
    obtain ⟨twin, memberTwin, same⟩ := List.mem_map.mp second
    -- Paths of different kinds begin differently.
    have isKind := kind?_of_mem_sectionDiff memberTwin
    rw [same, kind?_of_mem_sectionDiff member] at isKind
    exact different (Option.some.inj isKind)

/-- A space does not change exactly where it agrees with what is desired. -/
theorem diff_eq_nil_iff_agrees : live.diff desired = [] ↔ live.Agrees desired := by
  rw [Space.diff, List.append_eq_nil_iff, List.append_eq_nil_iff, developersDiff_eq_nil_iff]
  constructor
  · rintro ⟨⟨applications, services⟩, developers⟩
    exact ⟨Application.schema.diff_eq_nil_iff.mp applications,
      Service.schema.diff_eq_nil_iff.mp services, developers⟩
  · rintro ⟨applications, services, developers⟩
    exact ⟨⟨Application.schema.diff_eq_nil_iff.mpr applications,
      Service.schema.diff_eq_nil_iff.mpr services⟩, developers⟩

end

/-- The changes between two spaces say exactly how these differ. -/
theorem diff_exact (live desired : Space) : live.ExactDiff desired (live.diff desired) where
  distinct := nodup_paths_diff live desired
  applications := (Schema.exact_diff _ _).congr fun _ => mem_diff_of_kind?
  services := (Schema.exact_diff _ _).congr fun _ => mem_diff_of_kind?
  developers := by
    apply exactAt_of_difference?
    intro change here
    have isKind : change.path.kind? = some .developers := here ▸ rfl
    rw [mem_diff_of_kind? isKind, Space.sectionDiff, developersDiff_eq, Option.mem_toList]
    rfl
  -- A change of the whole difference is one of some section, which is known from its path.
  placed change member := by
    rw [diff_eq_flatMap, List.mem_flatMap] at member
    obtain ⟨kind, _, member⟩ := member
    have isKind := kind?_of_mem_sectionDiff member
    cases kind with
    | applications => exact .inl isKind
    | services => exact .inr (.inl isKind)
    | developers => exact .inr (.inr (path_of_mem_developersDiff member))
  empty := diff_eq_nil_iff_agrees

/-- Order and repetition are no difference, and what a list lacks is listed once. -/
example :
    Space.diff { developers := ["bob", "ann", "bob"] } { developers := ["ann", "bob"] } = [] ∧
    Space.diff { developers := ["bob"] } { developers := ["eve", "ann", "eve"] } =
      [⟨.ofKind .developers, .developers ["eve", "ann", "eve"],
        .collection ["ann", "eve"] ["bob"]⟩] := by
  decide +kernel

end CloudSpace
