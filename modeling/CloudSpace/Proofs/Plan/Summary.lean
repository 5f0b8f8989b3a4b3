import CloudSpace.Proofs.Plan.Transition

/-!
# What a summary of changes counts

A summary is counted over the groups without looking at what a planner will make of them. It still
agrees with the planners, since a group of changes between two spaces is counted by the transition
it describes, and that transition is a matter of what is live and what is desired under its name.
-/
namespace CloudSpace

open Transition (Case caseOf)

/-! ### Counting names -/

/-- There are so many names with a property. -/
def CountsNames (count : Nat) (property : String → Prop) : Prop :=
  ∃ names, ListsExactly names property ∧ names.length = count

theorem NameMap.countsNames_countP {α : Type} (map : NameMap α) (test : String → α → Bool) :
    CountsNames (map.entries.countP fun entry => test entry.1 entry.2) fun name =>
      ∃ value, map.get? name = some value ∧ test name value = true := by
  let kept := map.entries.filter fun entry => test entry.1 entry.2
  have ascending : (kept.map (·.1)).Pairwise (· < ·) :=
    List.pairwise_map.mpr (map.ascending.filter _)
  refine ⟨kept.map (·.1), ⟨ascending, ?_⟩, ?_⟩
  · intro name
    simp only [kept, List.mem_map, List.mem_filter, Prod.exists, exists_and_right, exists_eq_right,
      NameMap.get?_eq_some_iff]
  · rw [List.length_map, ← List.countP_eq_length_filter]

theorem CountsNames.congr {count : Nat} {property other : String → Prop}
    (counts : CountsNames count property) (same : ∀ name, property name ↔ other name) :
    CountsNames count other := by
  rwa [← funext fun name => propext (same name)]

/-! ### What becomes of an entity -/

/-- What becomes of an entity, by what is live and what is desired under its name. -/
inductive Schema.Becomes {α : Type} (schema : Schema α) : Option α → Option α → Case → Prop
  | created (record : α) : Becomes schema none (some record) .created
  | deleted (held : α) : Becomes schema (some held) none .deleted
  | updated {held record : α} (differ : ¬ schema.Agrees held record) :
    Becomes schema (some held) (some record) .updated

namespace Schema

variable {α : Type} (schema : Schema α) {name : String} {held wanted : Option α} {case : Case}

theorem Becomes.unique {schema : Schema α} {other : Case}
    (becomes : schema.Becomes held wanted case) (again : schema.Becomes held wanted other) :
    other = case := by
  cases becomes <;> cases again <;> rfl

theorem entityDiff_ne_nil_of_becomes (becomes : schema.Becomes held wanted case) :
    schema.entityDiff name held wanted ≠ [] := by
  cases becomes with
  | created record => simp
  | deleted held => simp
  | updated differ =>
    rw [entityDiff_compared, ne_eq, schema.compare_eq_nil_iff]
    exact differ

/-- What the planner takes the changes for is what becomes of the entity. -/
theorem caseOf_entityDiff_iff (named : name ≠ "")
    (differs : schema.entityDiff name held wanted ≠ []) :
    caseOf (Transition.of schema.kind name (schema.entityDiff name held wanted)) = some case ↔
      schema.Becomes held wanted case := by
  -- Since only one thing becomes of an entity, it is enough to name it in each case.
  have here {made : Case} (becomes : schema.Becomes held wanted made) :
      some made = some case ↔ schema.Becomes held wanted case := by
    constructor
    · rintro ⟨⟩
      exact becomes
    · exact fun again => congrArg some (becomes.unique again).symm
  cases held with
  | none =>
    cases wanted with
    | none => exact absurd rfl differs
    | some record =>
      rw [entityDiff_added, Plan.transition_created named]
      exact here (.created record)
  | some held =>
    cases wanted with
    | none =>
      rw [entityDiff_removed, Plan.transition_deleted named]
      exact here (.deleted held)
    | some record =>
      rw [entityDiff_compared, ne_eq, schema.compare_eq_nil_iff] at differs
      rw [entityDiff_compared, Plan.transition_updated named (schema.fieldsOf _ held record)]
      exact here (.updated differs)

end Schema

/-! ### Counting groups -/

/-- How many entities a summary counts. -/
def ChangeSummary.total (summary : ChangeSummary) : Nat :=
  summary.creates + summary.updates + summary.deletes

theorem ChangeSummary.isEmpty_iff {summary : ChangeSummary} :
    summary.isEmpty = true ↔ summary.total = 0 := by
  simp only [ChangeSummary.isEmpty, ChangeSummary.total, Bool.and_eq_true, beq_iff_eq]
  omega

namespace ChangeGroups

/-- How many groups of a section a planner takes for a case. -/
def countCase (groups : ChangeGroups) (kind : EntityKind) (case : Case) : Nat :=
  (groups.keyed kind).entries.countP fun entry =>
    caseOf (Transition.of kind entry.1 entry.2) = some case

/-- What a group is counted as. -/
def countedAs : List Change → Case
  | [only] =>
    if only.isObjectAdded then .created else if only.isObjectRemoved then .deleted else .updated
  | _ => .updated

theorem countGroup_eq (summary : ChangeSummary) (group : List Change) :
    countGroup summary group =
      ⟨summary.creates + if countedAs group = .created then 1 else 0,
        summary.updates + if countedAs group = .updated then 1 else 0,
        summary.deletes + if countedAs group = .deleted then 1 else 0⟩ := by
  rw [countGroup.eq_def, countedAs.eq_def]
  split
  · split_ifs <;> simp_all
  · simp

theorem foldl_countGroup (all : List (List Change)) (summary : ChangeSummary) :
    all.foldl countGroup summary =
      ⟨summary.creates + all.countP (countedAs · = .created),
        summary.updates + all.countP (countedAs · = .updated),
        summary.deletes + all.countP (countedAs · = .deleted)⟩ := by
  -- The summary varies, since each group is counted on top of those before it.
  induction all generalizing summary with
  | nil => rfl
  | cons group rest ih =>
    rw [List.foldl_cons, ih, countGroup_eq]
    simp only [List.countP_cons, decide_eq_true_eq, ChangeSummary.mk.injEq]
    omega

theorem total_foldl_countGroup (all : List (List Change)) (summary : ChangeSummary) :
    (all.foldl countGroup summary).total = summary.total + all.length := by
  induction all generalizing summary with
  | nil => rfl
  | cons group rest ih =>
    have one : (countGroup summary group).total = summary.total + 1 := by
      rw [countGroup.eq_def]
      split
      · split_ifs <;> simp only [ChangeSummary.total] <;> omega
      · simp only [ChangeSummary.total]
        omega
    rw [List.foldl_cons, ih, one, List.length_cons]
    omega

/-- A summary is empty only if there are no groups. -/
theorem toList_of_isEmpty_summary {groups : ChangeGroups}
    (empty : groups.summary.isEmpty = true) : groups.toList = [] := by
  have none : groups.developers = none := by
    by_contra some
    rw [ChangeSummary.isEmpty_iff, summary, if_pos (Option.isSome_iff_ne_none.mpr some)] at empty
    simp [ChangeSummary.total] at empty
  rw [ChangeSummary.isEmpty_iff, summary, none, if_neg (by simp), total_foldl_countGroup] at empty
  have noGroups : groups.applications.values = [] ∧ groups.services.values = [] := by
    simpa [ChangeSummary.total] using empty
  simp [toList, noGroups, none]

/-- A group that describes a transition is counted as what it describes. -/
theorem caseOf_eq_countedAs {kind : EntityKind} {name : String} {group : List Change}
    {transition : Transition} (described : Transition.of kind name group = .ok transition) :
    caseOf (Transition.of kind name group) = some (countedAs group) := by
  obtain ⟨case, describes⟩ := Transition.exists_describes kind name group
  rw [Transition.caseOf_eq_iff.mpr describes]
  cases describes with
  | created named affected only => rw [only]; rfl
  | deleted named affected only => rw [only]; rfl
  | updated named fields =>
    rw [countedAs.eq_def]
    split
    next only =>
      have notWhole := (fields only (List.mem_singleton_self _)).2
      rw [Transition.isWhole_iff, not_or] at notWhole
      rw [if_neg notWhole.1, if_neg notWhole.2]
    next => rfl
  -- Nothing else describes a transition.
  | unnamed empty =>
    rw [empty, Transition.of_unnamed] at described
    cases described
  | malformed named wrong =>
    obtain ⟨message, refused⟩ := Transition.of_malformed named wrong
    rw [refused] at described
    cases described

section

variable {live desired : Space} {groups : ChangeGroups}
  (built : build (live.diff desired) = .ok groups)

include built

theorem countP_values_eq_countCase (kind : EntityKind) (case : Case) :
    (groups.keyed kind).values.countP (countedAs · = case) = groups.countCase kind case := by
  rw [NameMap.values, List.countP_map, countCase]
  apply List.countP_congr
  rintro ⟨name, group⟩ member
  obtain ⟨transition, described⟩ :=
    Transition.of_group built (NameMap.get?_eq_some_iff.mpr member)
  simp only [Function.comp_apply, caseOf_eq_countedAs described, Option.some_inj]

theorem isSome_developers_build :
    groups.developers.isSome = true ↔ ¬ SameMembers live.developers desired.developers := by
  rw [isSome_developers_iff (developers_build built), ← developersDiff_eq_nil_iff]
  constructor
  · rintro ⟨change, member, isKind⟩ same
    rw [mem_diff_of_kind? isKind, Space.sectionDiff, same] at member
    cases member
  · intro differ
    obtain ⟨change, member⟩ := List.exists_mem_of_ne_nil _ differ
    have isKind : change.path.kind? = some .developers :=
      path_of_mem_developersDiff member ▸ rfl
    exact ⟨change, (mem_diff_of_kind? isKind).mpr member, isKind⟩

/-- The summary adds the cases of both keyed kinds, and the developers as an update. -/
theorem summary_eq : groups.summary =
    ⟨groups.countCase .applications .created + groups.countCase .services .created,
      groups.countCase .applications .updated + groups.countCase .services .updated +
        (if groups.developers.isSome then 1 else 0),
      groups.countCase .applications .deleted + groups.countCase .services .deleted⟩ := by
  have counted (case : Case) :
      (groups.applications.values ++ groups.services.values).countP (countedAs · = case) =
        groups.countCase .applications case + groups.countCase .services case := by
    rw [List.countP_append]
    congr 1
    · exact countP_values_eq_countCase built .applications case
    · exact countP_values_eq_countCase built .services case
  rw [summary, foldl_countGroup, counted, counted, counted]
  split <;> simp

/-- The entities of a case are counted by name. -/
theorem countsNames_countCase {α : Type} (schema : Schema α) (isKeyed : schema.kind ≠ .developers)
    {held wanted : NameMap α} (within : ∀ name,
      (live.diff desired).filter (·.isWithin schema.kind name) =
        schema.entityDiff name (held.get? name) (wanted.get? name)) (case : Case) :
    CountsNames (groups.countCase schema.kind case) fun name =>
      schema.Becomes (held.get? name) (wanted.get? name) case := by
  have counted := (groups.keyed schema.kind).countsNames_countP fun name group =>
    caseOf (Transition.of schema.kind name group) = some case
  refine counted.congr fun name => ?_
  have found := get?_keyed_build built isKeyed name
  rw [within] at found
  cases differs : schema.entityDiff name (held.get? name) (wanted.get? name) with
  | nil =>
    -- There is no group, and nothing becomes of the entity.
    have none : ¬ schema.Becomes (held.get? name) (wanted.get? name) case :=
      fun becomes => schema.entityDiff_ne_nil_of_becomes becomes differs
    rw [found, differs]
    simp [group?, none]
  | cons change rest =>
    -- The name of an entity with a change is not empty, or there would be no groups at all.
    have member : change ∈ (live.diff desired).filter (·.isWithin schema.kind name) := by
      rw [within, differs]
      exact List.mem_cons_self
    obtain ⟨inside, own⟩ := List.mem_filter.mp member
    have named := nonempty_of_build built isKeyed inside own
    rw [← schema.caseOf_entityDiff_iff named (differs ▸ List.cons_ne_nil _ _), found, differs]
    simp [group?]

theorem summary_isEmpty_iff : groups.summary.isEmpty = true ↔ live.diff desired = [] := by
  constructor
  · intro empty
    have perm := perm_build built (exists_build_iff.mp ⟨groups, built⟩)
    rw [toList_of_isEmpty_summary empty] at perm
    exact perm.symm.eq_nil
  · intro empty
    rw [empty] at built
    cases built
    rfl

end

/-- A summary counts the entities by what becomes of them, which is also what a planner takes their
groups for, and an update more if the developers differ. -/
structure Tallies (groups : ChangeGroups) (live desired : Space) : Prop where
  applications : ∀ case, CountsNames (groups.countCase .applications case) fun name =>
    Application.schema.Becomes (live.applications.get? name) (desired.applications.get? name) case
  services : ∀ case, CountsNames (groups.countCase .services case) fun name =>
    Service.schema.Becomes (live.services.get? name) (desired.services.get? name) case
  developers : groups.developers.isSome = true ↔ ¬ SameMembers live.developers desired.developers
  creates : groups.summary.creates =
    groups.countCase .applications .created + groups.countCase .services .created
  updates : groups.summary.updates =
    groups.countCase .applications .updated + groups.countCase .services .updated +
      if groups.developers.isSome then 1 else 0
  deletes : groups.summary.deletes =
    groups.countCase .applications .deleted + groups.countCase .services .deleted
  empty : groups.summary.isEmpty = true ↔ live.diff desired = []

end ChangeGroups

/-- The summary of the changes between two spaces counts the entities that are made, updated and
deleted, which are those whose groups the planners take for it. -/
theorem summary_tallies (live desired : Space) {groups : ChangeGroups}
    (built : ChangeGroups.build (live.diff desired) = .ok groups) :
    groups.Tallies live desired where
  applications := ChangeGroups.countsNames_countCase built Application.schema (by decide)
    (filter_diff_application live desired)
  services := ChangeGroups.countsNames_countCase built Service.schema (by decide)
    (filter_diff_service live desired)
  developers := ChangeGroups.isSome_developers_build built
  creates := congrArg (·.creates) (ChangeGroups.summary_eq built)
  updates := congrArg (·.updates) (ChangeGroups.summary_eq built)
  deletes := congrArg (·.deletes) (ChangeGroups.summary_eq built)
  empty := ChangeGroups.summary_isEmpty_iff built

/-- An application goes, a service comes, one of each is updated, and so are the developers. -/
theorem summary_tallies_mixed :
    let live : Space := {
      applications := .ofList [("old", {}), ("web", { path := some "site" })]
      services := .ofList [("db", { offering := "postgres", plan := "small" })]
      developers := ["ann"] }
    let desired : Space := {
      applications := .ofList [("web", { path := some "app" })]
      services := .ofList [("db", { offering := "postgres", plan := "large" }),
        ("queue", { offering := "rabbit", plan := "small" })]
      developers := ["bob"] }
    ∃ groups, ChangeGroups.build (live.diff desired) = .ok groups ∧
      groups.Tallies live desired ∧ groups.summary = ⟨1, 3, 1⟩ := by
  intro live desired
  -- The groups need not be known: that their summary can be computed shows that they are there.
  have built : (ChangeGroups.build (live.diff desired)).map (·.summary) = .ok ⟨1, 3, 1⟩ := by
    decide +kernel
  cases found : ChangeGroups.build (live.diff desired) with
  | error error =>
    rw [found] at built
    cases built
  | ok groups =>
    rw [found] at built
    exact ⟨groups, rfl, summary_tallies live desired found, Except.ok.inj built⟩

end CloudSpace
