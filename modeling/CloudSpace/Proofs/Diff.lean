import CloudSpace.Plan.Transition
import CloudSpace.Proofs.Diff.Schema

/-!
# Changes of one entity

The changes between two spaces that lie within one entity are those between the two records of
its name: nothing if they agree, the whole record if there is only one, and otherwise changes
of fields below the entity.
-/
namespace CloudSpace

/-! ### Changes of fields -/

/-- A change of something below a place, and not of a record that comes or goes. -/
structure Change.IsFieldOf (change : Change) (path : Path) : Prop where
  below : ∃ rest, rest ≠ [] ∧ change.path.segments = path.segments ++ rest
  noAddition : change.isObjectAdded = false
  noRemoval : change.isObjectRemoved = false

/-- A change of a field of an entity lies within the entity. -/
theorem Change.IsFieldOf.isWithin {change : Change} {kind : EntityKind} {name : String}
    (isField : change.IsFieldOf (.ofEntity kind name)) : change.isWithin kind name = true := by
  obtain ⟨⟨rest, _, segments⟩, _, _⟩ := isField
  simp [Change.isWithin, Path.kind?, Path.entity?, segments, Path.ofEntity]

/-- Changes of fields of one record. -/
def FieldsOf (path : Path) (changes : List Change) : Prop :=
  ∀ change ∈ changes, change.IsFieldOf path

theorem FieldsOf.nil (path : Path) : FieldsOf path [] := List.forall_mem_nil _

/-- What comparing two records gives are changes of fields, below the path of the record. -/
theorem Schema.fieldsOf {α : Type} (schema : Schema α) (path : Path) (live desired : α) :
    FieldsOf path (schema.compare path live desired) := by
  intro change member
  obtain ⟨field, _, changed⟩ := schema.mem_compare.mp member
  obtain ⟨difference, differs, rfl⟩ := Option.map_eq_some_iff.mp changed
  have separates := FieldType.separates_of_difference? differs
  refine ⟨⟨field.names.map .field, ?_, rfl⟩, ?_, ?_⟩
  · simpa using field.nonempty
  · simpa [Change.isObjectAdded] using separates.ne_objectAdded
  · simpa [Change.isObjectRemoved] using separates.ne_objectRemoved

theorem Application.fieldsOf_diff (path : Path) (live desired : Application) :
    FieldsOf path (Application.diff path live desired) :=
  Application.schema.fieldsOf path live desired

theorem Service.fieldsOf_diff (path : Path) (live desired : Service) :
    FieldsOf path (Service.diff path live desired) :=
  Service.schema.fieldsOf path live desired

/-! ### Changes of one entity -/

section

variable {α : Type} (kind : EntityKind) (wrap : α → Affected)
  (compare : Path → α → α → List Change)

/-- The changes between what is live and what is desired under one name. -/
def entityDiff (name : String) : Option α → Option α → List Change
  | some held, some record => compare (.ofEntity kind name) held record
  | none, some record => [⟨.ofEntity kind name, wrap record, .objectAdded⟩]
  | some held, none => [⟨.ofEntity kind name, wrap held, .objectRemoved⟩]
  | none, none => []

theorem isWithin_ofEntity (name : String) (affected : Affected) (difference : Difference)
    (other : String) :
    Change.isWithin ⟨.ofEntity kind name, affected, difference⟩ kind other =
      decide (name = other) := by
  simp [Change.isWithin, Path.kind?, Path.entity?, Path.ofEntity]

/-- A change is within one entity of a kind at most. -/
theorem isWithin_inj {change : Change} {kind : EntityKind} {name other : String}
    (first : change.isWithin kind name = true) (second : change.isWithin kind other = true) :
    name = other := by
  simp only [Change.isWithin, Bool.and_eq_true, decide_eq_true_eq] at first second
  exact Option.some.inj (first.2.symm.trans second.2)

theorem isWithin_of_mem_entityDiff
    (fields : ∀ path live desired, FieldsOf path (compare path live desired))
    {name : String} {live desired : Option α} :
    ∀ change ∈ entityDiff kind wrap compare name live desired,
      change.isWithin kind name = true := by
  intro change member
  cases live <;> cases desired <;> simp only [entityDiff, List.mem_singleton] at member
  · cases member
  · subst member; simp [isWithin_ofEntity]
  · subst member; simp [isWithin_ofEntity]
  · exact (fields _ _ _ change member).isWithin

/-- Of the changes that the entries of a map give rise to, those within an entity come from the
entry of its name. -/
theorem filter_flatMap_entries {β : Type} (map : NameMap β) (f : String → β → List Change)
    (owned : ∀ key record, ∀ change ∈ f key record, change.isWithin kind key = true)
    (name : String) :
    (map.entries.flatMap fun entry => f entry.1 entry.2).filter (·.isWithin kind name) =
      ((map.get? name).map (f name)).getD [] := by
  -- Changes within the entity are kept, and every other entry keeps nothing of its changes.
  let kept (key : String) (record : β) := (f key record).filter (·.isWithin kind name)
  have all : kept name = f name := by
    funext record
    exact List.filter_eq_self.mpr (owned name record)
  have nothing : ∀ key, key ≠ name → ∀ record, kept key record = [] := by
    intro key other record
    apply List.filter_eq_nil_iff.mpr
    intro change member within
    exact other (isWithin_inj (owned key record change member) within)
  let names := distinctSorted (name :: map.keys)
  have covered : ∀ key ∈ map.keys, key ∈ names := fun key member =>
    mem_distinctSorted.mpr (List.mem_cons_of_mem _ member)
  have here : name ∈ names := mem_distinctSorted.mpr List.mem_cons_self
  rw [List.filter_flatMap, map.flatMap_entries names (ascending_distinctSorted _) covered kept,
    flatMap_of_ascending [name] _ (List.pairwise_singleton _ _)
      (ascending_distinctSorted _)]
  · simp only [List.flatMap_singleton, all]
  · simpa using here
  · intro key _ other
    cases map.get? key with
    | none => rfl
    | some record => simpa using nothing key (by simpa using other) record

/-- The changes of a section within one entity. -/
theorem filter_diff
    (fields : ∀ path live desired, FieldsOf path (compare path live desired))
    (live desired : NameMap α) (name : String) :
    (NameMap.diff kind wrap compare live desired).filter (·.isWithin kind name) =
      entityDiff kind wrap compare name (live.get? name) (desired.get? name) := by
  have wanted := filter_flatMap_entries kind desired
    (fun key record => entityDiff kind wrap compare key (live.get? key) (some record))
    (fun key record => isWithin_of_mem_entityDiff kind wrap compare fields) name
  have held := filter_flatMap_entries kind live
    (fun key record => if desired.contains key then []
      else entityDiff kind wrap compare key (some record) none)
    (by
      intro key record change member
      split at member
      · simp at member
      · exact isWithin_of_mem_entityDiff kind wrap compare fields change member) name
  -- Both passes of the differ read an entry as what is live and what is desired under its name.
  have split : NameMap.diff kind wrap compare live desired =
      desired.entries.flatMap (fun entry =>
        entityDiff kind wrap compare entry.1 (live.get? entry.1) (some entry.2)) ++
      live.entries.flatMap (fun entry => if desired.contains entry.1 then []
        else entityDiff kind wrap compare entry.1 (some entry.2) none) := by
    simp only [NameMap.diff]
    congr 1
    apply List.flatMap_congr
    rintro ⟨key, record⟩ _
    dsimp only
    cases live.get? key <;> rfl
  rw [split, List.filter_append, wanted, held, NameMap.contains_eq_isSome]
  cases live.get? name <;> cases desired.get? name <;> simp [entityDiff]

/-- A change of a section is within an entity that is live or desired. -/
theorem isWithin_of_mem_diff
    (fields : ∀ path live desired, FieldsOf path (compare path live desired))
    {live desired : NameMap α} {change : Change}
    (member : change ∈ NameMap.diff kind wrap compare live desired) :
    ∃ name, (name ∈ live.keys ∨ name ∈ desired.keys) ∧ change.isWithin kind name = true := by
  have key {map : NameMap α} {name : String} {record : α} (held : (name, record) ∈ map.entries) :
      name ∈ map.keys := List.mem_map_of_mem (f := (·.1)) held
  simp only [NameMap.diff, List.mem_append, List.mem_flatMap, Prod.exists] at member
  -- The first pass goes through what is desired, and the second through what is only live.
  rcases member with ⟨name, record, wanted, inside⟩ | ⟨name, record, held, inside⟩
  · refine ⟨name, .inr (key wanted), ?_⟩
    split at inside
    · exact (fields _ _ _ change inside).isWithin
    · rw [List.mem_singleton.mp inside]
      simp [isWithin_ofEntity]
  · refine ⟨name, .inl (key held), ?_⟩
    split at inside
    · simp at inside
    · rw [List.mem_singleton.mp inside]
      simp [isWithin_ofEntity]

end

/-! ### One section -/

section

variable {α : Type} (kind : EntityKind) (wrap : α → Affected)
  (compare : Path → α → α → List Change)

theorem diff_empty : NameMap.diff kind wrap compare ∅ ∅ = [] := rfl

theorem developersDiff_empty : developersDiff [] [] = [] := rfl

end

/-- The difference of two spaces, as far as a section goes, is the difference of the sections. -/
theorem diff_restrict_applications (live desired : Space) :
    (live.restrict .applications).diff (desired.restrict .applications) =
      NameMap.diff .applications .application Application.diff live.applications
        desired.applications := by
  simp only [Space.diff, Space.restrict, diff_empty, developersDiff_empty, List.append_nil]

theorem diff_restrict_services (live desired : Space) :
    (live.restrict .services).diff (desired.restrict .services) =
      NameMap.diff .services .service Service.diff live.services desired.services := by
  simp only [Space.diff, Space.restrict, diff_empty, developersDiff_empty, List.append_nil,
    List.nil_append]

theorem diff_restrict_developers (live desired : Space) :
    (live.restrict .developers).diff (desired.restrict .developers) =
      developersDiff live.developers desired.developers := by
  simp only [Space.diff, Space.restrict, diff_empty, List.nil_append]

end CloudSpace
