import CloudSpace.Plan.Batch
import CloudSpace.Proofs.Grouping.Partition
import CloudSpace.Proofs.Plan.Entity

/-!
# Batches from spaces

The batch of a kind is a function of what is live and what is desired of that kind: the calls
for each name, in the order of the names. Only services are ever skipped, and the changes of a
section without an empty name always make a batch.
-/
namespace CloudSpace

/-- The names that one of two maps binds, ascending. -/
def NameMap.names {α : Type} (live desired : NameMap α) : List String :=
  distinctSorted (live.keys ++ desired.keys)

theorem NameMap.mem_names {α : Type} {live desired : NameMap α} {name : String} :
    name ∈ live.names desired ↔ name ∈ live.keys ∨ name ∈ desired.keys := by
  rw [names, mem_distinctSorted, List.mem_append]

theorem NameMap.get?_of_not_mem_names {α : Type} {live desired : NameMap α} {name : String}
    (absent : name ∉ live.names desired) : live.get? name = none ∧ desired.get? name = none := by
  rw [mem_names, not_or] at absent
  exact ⟨get?_eq_none_iff.mpr absent.1, get?_eq_none_iff.mpr absent.2⟩

namespace Plan

/-! ### The calls between two spaces -/

/-- The calls for what is live and what is desired of a kind. -/
def calls (kind : EntityKind) (live desired : Space) : List Call :=
  match kind with
  | .applications => (live.applications.names desired.applications).flatMap fun name =>
      applicationCalls name (live.applications.get? name) (desired.applications.get? name)
  | .services => (live.services.names desired.services).flatMap fun name =>
      serviceCalls name (live.services.get? name) (desired.services.get? name)
  | .developers => roleCalls live.developers desired.developers

/-- The services that differ. -/
def skips (kind : EntityKind) (live desired : Space) : List Skipped :=
  match kind with
  | .services => (live.services.names desired.services).flatMap fun name =>
      ((serviceRefusal? name (live.services.get? name) (desired.services.get? name)).map
        fun error => ⟨name, error.message⟩).toList
  | _ => []

/-- The calls for a kind only depend on what is live of that kind. -/
theorem calls_congr {kind : EntityKind} {live other desired : Space}
    (same : live.restrict kind = other.restrict kind) :
    calls kind live desired = calls kind other desired ∧
      skips kind live desired = skips kind other desired := by
  cases kind <;> simp_all [Space.restrict, calls, skips]

/-- The calls of a plan, if it has any. -/
def EntityPlan.callList (plan : EntityPlan) : List Call :=
  match plan.calls with
  | .ok calls => calls
  | .error _ => []

/-- Why an entity is skipped, if it is. -/
def EntityPlan.skips (plan : EntityPlan) (entity : String) : List Skipped :=
  match plan.calls with
  | .ok _ => []
  | .error error => [⟨entity, error.message⟩]

end Plan

/-- No entity of a kind has an empty name. -/
def Space.Named (space : Space) : EntityKind → Prop
  | .applications => "" ∉ space.applications.keys
  | .services => "" ∉ space.services.keys
  | .developers => True

instance (space : Space) (kind : EntityKind) : Decidable (space.Named kind) :=
  match kind with
  | .applications => inferInstanceAs (Decidable ("" ∉ space.applications.keys))
  | .services => inferInstanceAs (Decidable ("" ∉ space.services.keys))
  | .developers => inferInstanceAs (Decidable True)

/-! ### Batches of groups -/

theorem Batch.of_eq (kind : EntityKind) (groups : ChangeGroups) :
    (Batch.of kind groups).calls = (Batch.groupsOf kind groups).flatMap
        (fun group => (Plan.ofKind kind group.1 group.2).callList) ∧
      (Batch.of kind groups).skipped = (Batch.groupsOf kind groups).flatMap
        (fun group => (Plan.ofKind kind group.1 group.2).skips group.1) := by
  -- The batch is folded with what was before it in front.
  have added : ∀ (all : List (String × List Change)) (batch : Batch),
      (all.foldl (fun batch group =>
          batch.add group.1 (Plan.ofKind kind group.1 group.2)) batch).calls =
        batch.calls ++ all.flatMap (fun group =>
          (Plan.ofKind kind group.1 group.2).callList) ∧
      (all.foldl (fun batch group =>
          batch.add group.1 (Plan.ofKind kind group.1 group.2)) batch).skipped =
        batch.skipped ++ all.flatMap (fun group =>
          (Plan.ofKind kind group.1 group.2).skips group.1) := by
    intro all
    induction all with
    | nil => simp
    | cons group rest ih =>
      intro batch
      rw [List.foldl_cons, (ih _).1, (ih _).2, List.flatMap_cons, List.flatMap_cons]
      cases planned : (Plan.ofKind kind group.1 group.2).calls <;>
        simp [Batch.add, Plan.EntityPlan.callList, Plan.EntityPlan.skips, planned]
  simpa [Batch.of] using added (Batch.groupsOf kind groups) {}

/-- Reading the groups of a section in their order is reading what is live and what is desired
name by name, provided that names without changes give nothing. -/
theorem flatMap_groups {α β : Type} {kind : EntityKind} (isKeyed : kind ≠ .developers)
    (wrap : α → Affected) {compare : Path → α → α → List Change}
    (fields : ∀ path live desired, FieldsOf path (compare path live desired))
    {live desired : NameMap α} {groups : ChangeGroups}
    (built : ChangeGroups.build (NameMap.diff kind wrap compare live desired) = .ok groups)
    (read : String → List Change → List β) (made : String → Option α → Option α → List β)
    (same : ∀ name, name ≠ "" → ∀ live desired,
      read name (entityDiff kind wrap compare name live desired) = made name live desired)
    (nothing : ∀ name live desired, entityDiff kind wrap compare name live desired = [] →
      made name live desired = []) :
    (groups.keyed kind).entries.flatMap (fun group => read group.1 group.2) =
      (live.names desired).flatMap fun name => made name (live.get? name) (desired.get? name) := by
  -- A group is what the differ finds under one name, so names it finds nothing under have none.
  have found (name : String) : (groups.keyed kind).get? name = ChangeGroups.group?
      (entityDiff kind wrap compare name (live.get? name) (desired.get? name)) := by
    rw [ChangeGroups.get?_keyed_build built isKeyed, filter_diff kind wrap compare fields]
  have covered : ∀ name ∈ (groups.keyed kind).keys, name ∈ live.names desired := by
    intro name member
    by_contra absent
    obtain ⟨unbound, unwanted⟩ := NameMap.get?_of_not_mem_names absent
    rw [NameMap.mem_keys, found, unbound, unwanted] at member
    cases member
  rw [NameMap.flatMap_entries _ _ (ascending_distinctSorted _) covered]
  apply List.flatMap_congr
  intro name _
  rw [found]
  cases changes : entityDiff kind wrap compare name (live.get? name) (desired.get? name) with
  | nil => exact (nothing name _ _ changes).symm
  | cons first rest =>
    -- Grouping has refused changes of an entity with an empty name.
    have nonempty : name ≠ "" := by
      have inside : first ∈ (NameMap.diff kind wrap compare live desired).filter
          (·.isWithin kind name) := by
        rw [filter_diff kind wrap compare fields, changes]
        exact List.mem_cons_self
      obtain ⟨member, within⟩ := List.mem_filter.mp inside
      exact ChangeGroups.nonempty_of_build built isKeyed member within
    rw [← same name nonempty, changes]
    rfl

section

variable {live desired : Space} {groups : ChangeGroups}

theorem Batch.of_build_applications (built : ChangeGroups.build
      ((live.restrict .applications).diff (desired.restrict .applications)) = .ok groups) :
    (Batch.of .applications groups).calls = Plan.calls .applications live desired ∧
      (Batch.of .applications groups).skipped = [] := by
  rw [diff_restrict_applications] at built
  rw [(Batch.of_eq .applications groups).1, (Batch.of_eq .applications groups).2]
  -- Calls and skips are both made group by group, so that both are what the differ finds by name.
  constructor
  · exact flatMap_groups (by decide) _ Application.fieldsOf_diff built
      (fun name changes => (Plan.application name changes).callList) Plan.applicationCalls
      (fun name nonempty live desired => by
        simp only [Plan.EntityPlan.callList, Plan.application_entityDiff nonempty])
      (fun _ _ _ => Plan.applicationCalls_of_entityDiff)
  · refine (flatMap_groups (by decide) _ Application.fieldsOf_diff built
      (fun name changes => (Plan.application name changes).skips name) (fun _ _ _ => [])
      (fun name nonempty live desired => by
        simp only [Plan.EntityPlan.skips, Plan.application_entityDiff nonempty])
      (fun _ _ _ _ => rfl)).trans ?_
    simp

theorem Batch.of_build_services (built : ChangeGroups.build
      ((live.restrict .services).diff (desired.restrict .services)) = .ok groups) :
    (Batch.of .services groups).calls = Plan.calls .services live desired ∧
      (Batch.of .services groups).skipped = Plan.skips .services live desired := by
  rw [diff_restrict_services] at built
  rw [(Batch.of_eq .services groups).1, (Batch.of_eq .services groups).2]
  constructor
  · exact flatMap_groups (by decide) _ Service.fieldsOf_diff built
      (fun name changes => (Plan.service name changes).callList) Plan.serviceCalls
      (fun name nonempty live desired => by
        simp only [Plan.EntityPlan.callList, Plan.service_entityDiff nonempty]
        -- A service that is refused has no calls beside its refusal.
        cases refused : Plan.serviceRefusal? name live desired with
        | none => rfl
        | some error => cases live <;> cases desired <;> first | rfl | cases refused)
      (fun _ _ _ same => (Plan.serviceCalls_of_entityDiff same).1)
  · exact flatMap_groups (by decide) _ Service.fieldsOf_diff built
      (fun name changes => (Plan.service name changes).skips name)
      (fun name live desired => ((Plan.serviceRefusal? name live desired).map
        fun error => (⟨name, error.message⟩ : Skipped)).toList)
      (fun name nonempty live desired => by
        simp only [Plan.EntityPlan.skips, Plan.service_entityDiff nonempty]
        cases Plan.serviceRefusal? name live desired <;> rfl)
      (fun name live desired same => by
        simp only [(Plan.serviceCalls_of_entityDiff same).2, Option.map_none,
          Option.toList_none])

theorem Batch.of_build_developers (built : ChangeGroups.build
      ((live.restrict .developers).diff (desired.restrict .developers)) = .ok groups) :
    (Batch.of .developers groups).calls = Plan.calls .developers live desired ∧
      (Batch.of .developers groups).skipped = [] := by
  rw [diff_restrict_developers] at built
  rw [(Batch.of_eq .developers groups).1, (Batch.of_eq .developers groups).2]
  rcases Plan.developersDiff_cases live.developers desired.developers with
    ⟨same, nothing⟩ | ⟨change, one, grouped, planned⟩
  · rw [same] at built
    cases built
    exact ⟨nothing.symm, rfl⟩
  · rw [one, grouped] at built
    cases built
    simp [Batch.groupsOf, Plan.ofKind, Plan.EntityPlan.callList, Plan.EntityPlan.skips,
      planned, Plan.calls]

/-- The batch of a kind, from what is live and what is desired. -/
theorem Batch.of_build {kind : EntityKind}
    (built : ChangeGroups.build ((live.restrict kind).diff (desired.restrict kind)) = .ok groups) :
    (Batch.of kind groups).calls = Plan.calls kind live desired ∧
      (Batch.of kind groups).skipped = Plan.skips kind live desired := by
  cases kind with
  | applications => exact Batch.of_build_applications built
  | services => exact Batch.of_build_services built
  | developers => exact Batch.of_build_developers built

end

/-- Two sections without an empty name have a batch. -/
theorem ChangeGroups.exists_build_diff {kind : EntityKind} {live desired : Space}
    (named : live.Named kind) (namedDesired : desired.Named kind) :
    ∃ groups, ChangeGroups.build ((live.restrict kind).diff (desired.restrict kind)) =
      .ok groups := by
  have inside {α : Type} {live desired : NameMap α} {name : String} {change : Change}
      (some : name ∈ live.keys ∨ name ∈ desired.keys) (unnamed : "" ∉ live.keys)
      (unnamedDesired : "" ∉ desired.keys) (within : change.isWithin kind name = true) :
      ∃ name, change.isWithin kind name = true ∧ name ≠ "" := by
    refine ⟨name, within, ?_⟩
    -- What is within a keyed section is within an entity whose name is one of the map's, hence not
    -- empty.
    rintro rfl
    exact some.elim unnamed unnamedDesired
  -- What tells the sections apart is whether an entity's name has to be there.
  cases kind with
  | applications =>
    rw [diff_restrict_applications]
    apply exists_build .applications (by decide)
    intro change member
    obtain ⟨name, bound, within⟩ := isWithin_of_mem_diff _ _ _ Application.fieldsOf_diff member
    exact inside bound named namedDesired within
  | services =>
    rw [diff_restrict_services]
    apply exists_build .services (by decide)
    intro change member
    obtain ⟨name, bound, within⟩ := isWithin_of_mem_diff _ _ _ Service.fieldsOf_diff member
    exact inside bound named namedDesired within
  | developers =>
    rw [diff_restrict_developers]
    rcases Plan.developersDiff_cases live.developers desired.developers with
      ⟨same, _⟩ | ⟨change, one, grouped, _⟩
    · exact ⟨{}, by rw [same]; rfl⟩
    · exact ⟨_, by rw [one, grouped]⟩

end CloudSpace
