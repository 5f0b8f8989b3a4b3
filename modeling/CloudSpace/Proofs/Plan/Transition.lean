import CloudSpace.Proofs.Diff.Exact
import CloudSpace.Proofs.Grouping.Partition
import CloudSpace.Proofs.Plan.Entity

/-!
# Which transition a list of changes describes

A list of changes of an entity is told apart by what is in it and not by its order: it makes the
entity or deletes it if that is its one change, it updates the entity if no record comes or goes,
and anything else is malformed. What the differ finds between two spaces is never malformed.
-/
namespace CloudSpace

def Change.IsWhole (change : Change) : Prop :=
  change.difference = .objectAdded ∨ change.difference = .objectRemoved

namespace Transition

/-- A list of changes that describes no transition of an entity: it has a change of something
else, or a record comes or goes that is not the one change, of the entity itself. -/
def Malformed (kind : EntityKind) (entity : String) (changes : List Change) : Prop :=
  (∃ change ∈ changes, change.isWithin kind entity = false) ∨
    (∃ change ∈ changes, change.IsWhole) ∧
      ¬ ∃ only, changes = [only] ∧ only.path = .ofEntity kind entity

/-- What can come of looking at a list of changes. -/
inductive Case
  | created | deleted | updated
  /-- The entity has no name. -/
  | unnamed
  | malformed
deriving DecidableEq, Repr

def caseOf : Except Error Transition → Option Case
  | .ok (.create _) => some .created
  | .ok (.delete _) => some .deleted
  | .ok (.update _) => some .updated
  | .error (.plan (.precondition _)) => some .unnamed
  | .error (.plan (.invariant ..)) => some .malformed
  | .error _ => none

/-- The cases by what is in a list of changes. -/
inductive Describes (kind : EntityKind) (entity : String) (changes : List Change) : Case → Prop
  | created (named : entity ≠ "") (affected : Affected)
    (only : changes = [⟨.ofEntity kind entity, affected, .objectAdded⟩]) :
    Describes kind entity changes .created
  | deleted (named : entity ≠ "") (affected : Affected)
    (only : changes = [⟨.ofEntity kind entity, affected, .objectRemoved⟩]) :
    Describes kind entity changes .deleted
  | updated (named : entity ≠ "")
    (fields : ∀ change ∈ changes, change.isWithin kind entity = true ∧ ¬ change.IsWhole) :
    Describes kind entity changes .updated
  | unnamed (empty : entity = "") : Describes kind entity changes .unnamed
  | malformed (named : entity ≠ "") (wrong : Malformed kind entity changes) :
    Describes kind entity changes .malformed

section

variable {kind : EntityKind} {entity : String} {changes others : List Change}

/-! ### Lists of changes -/

theorem isWhole_iff {change : Change} :
    change.IsWhole ↔ change.isObjectAdded = true ∨ change.isObjectRemoved = true := by
  simp [Change.IsWhole, Change.isObjectAdded, Change.isObjectRemoved]

/-- The root of an entity is the only root within it. -/
theorem isEntityRoot_iff {change : Change} (within : change.isWithin kind entity = true) :
    change.path.isEntityRoot = true ↔ change.path = .ofEntity kind entity := by
  obtain ⟨⟨segments⟩, affected, difference⟩ := change
  simp only [Change.isWithin, Bool.and_eq_true, decide_eq_true_eq] at within
  constructor
  · intro root
    simp only [Path.isEntityRoot, Bool.and_eq_true, beq_iff_eq] at root
    obtain ⟨first, second, rfl⟩ := List.length_eq_two.mp root.1.1
    -- The two steps of the path are the kind and the name that it lies within.
    cases first <;> cases second <;> simp_all [Path.kind?, Path.entity?, Path.ofEntity]
  · intro same
    simp only at same
    rw [same]
    rfl

theorem counts_eq_zero_iff :
    (changes.countP Change.isObjectAdded = 0 ∧ changes.countP Change.isObjectRemoved = 0) ↔
      ∀ change ∈ changes, ¬ change.IsWhole := by
  simp only [List.countP_eq_zero, isWhole_iff, not_or]
  exact ⟨fun ⟨added, removed⟩ change member => ⟨added change member, removed change member⟩,
    fun none => ⟨fun change member => (none change member).1,
      fun change member => (none change member).2⟩⟩

theorem find?_foreign_eq_none_iff :
    changes.find? (fun change => !change.isWithin kind entity) = none ↔
      ∀ change ∈ changes, change.isWithin kind entity = true := by
  simp

/-! ### Each case -/

theorem of_unnamed (kind : EntityKind) (changes : List Change) :
    Transition.of kind "" changes =
      .error (.plan (.precondition s!"{kind} name must not be empty")) := rfl

theorem of_updated (named : entity ≠ "")
    (fields : ∀ change ∈ changes, change.isWithin kind entity = true ∧ ¬ change.IsWhole) :
    Transition.of kind entity changes = .ok (.update changes) := by
  have nonempty : entity.isEmpty = false := by simpa using named
  have own := find?_foreign_eq_none_iff.mpr fun change member => (fields change member).1
  have none := counts_eq_zero_iff.mpr fun change member => (fields change member).2
  simp [Transition.of, nonempty, own, none]

/-- Malformed changes break an invariant, whatever the message says about it. -/
theorem of_malformed (named : entity ≠ "") (wrong : Malformed kind entity changes) :
    ∃ message, Transition.of kind entity changes =
      .error (.plan (.invariant kind entity message)) := by
  have nonempty : entity.isEmpty = false := by simpa using named
  cases own : changes.find? (fun change => !change.isWithin kind entity) with
  | some foreign => exact ⟨_, by simp only [Transition.of, nonempty, own]; rfl⟩
  | none =>
    have within := find?_foreign_eq_none_iff.mp own
    -- Without a change of something else it is a record that comes or goes in the wrong place.
    obtain ⟨whole, alone⟩ : (∃ change ∈ changes, change.IsWhole) ∧
        ¬ ∃ only, changes = [only] ∧ only.path = .ofEntity kind entity := by
      rcases wrong with ⟨foreign, member, outside⟩ | both
      · exact absurd (within foreign member) (by simp [outside])
      · exact both
    have counted : ¬ (changes.countP Change.isObjectAdded = 0 ∧
        changes.countP Change.isObjectRemoved = 0) := by
      rw [counts_eq_zero_iff]
      push Not
      exact whole
    simp only [Transition.of, nonempty, own, if_neg counted, Bool.false_eq_true, if_false]
    cases changes with
    | nil => exact absurd whole (by simp)
    | cons only rest =>
      cases rest with
      | nil =>
        have below : only.path.isEntityRoot = false := by
          rw [Bool.eq_false_iff, ne_eq, isEntityRoot_iff (within only (List.mem_singleton_self _))]
          exact fun root => alone ⟨only, rfl, root⟩
        exact ⟨_, by simp only [below]; rfl⟩
      | cons second others =>
        dsimp only
        split_ifs <;> exact ⟨_, rfl⟩

theorem exists_describes (kind : EntityKind) (entity : String) (changes : List Change) :
    ∃ case, Describes kind entity changes case := by
  by_cases named : entity = ""
  · exact ⟨_, .unnamed named⟩
  by_cases wrong : Malformed kind entity changes
  · exact ⟨_, .malformed named wrong⟩
  -- What is not malformed is within the entity, and a whole record stands alone at its root.
  have within : ∀ change ∈ changes, change.isWithin kind entity = true := by
    intro change member
    by_contra outside
    exact wrong (.inl ⟨change, member, by simpa using outside⟩)
  by_cases whole : ∃ change ∈ changes, change.IsWhole
  · obtain ⟨⟨path, affected, difference⟩, rfl, root⟩ :
        ∃ only, changes = [only] ∧ only.path = .ofEntity kind entity := by
      by_contra none
      exact wrong (.inr ⟨whole, none⟩)
    obtain ⟨_, member, isWhole⟩ := whole
    cases List.mem_singleton.mp member
    cases root
    rcases isWhole with added | removed
    · cases added
      exact ⟨_, .created named affected rfl⟩
    · cases removed
      exact ⟨_, .deleted named affected rfl⟩
  · exact ⟨_, .updated named fun change member =>
      ⟨within change member, fun isWhole => whole ⟨change, member, isWhole⟩⟩⟩

/-- The case that describes a list of changes is the one that comes of it. -/
theorem caseOf_eq_iff {case : Case} :
    caseOf (Transition.of kind entity changes) = some case ↔
      Describes kind entity changes case := by
  have sound {case : Case} (describes : Describes kind entity changes case) :
      caseOf (Transition.of kind entity changes) = some case := by
    cases describes with
    | created named affected only => rw [only, Plan.transition_created named]; rfl
    | deleted named affected only => rw [only, Plan.transition_deleted named]; rfl
    | updated named fields => rw [of_updated named fields]; rfl
    | unnamed empty => rw [empty, of_unnamed]; rfl
    | malformed named wrong =>
      obtain ⟨message, refused⟩ := of_malformed named wrong
      rw [refused]
      rfl
  refine ⟨fun same => ?_, sound⟩
  -- There is a case that describes the list, and it is the one that comes of it.
  obtain ⟨other, describes⟩ := exists_describes kind entity changes
  cases (sound describes).symm.trans same
  exact describes

theorem describes_of {case : Case} {result : Except Error Transition}
    (same : Transition.of kind entity changes = result) (isCase : caseOf result = some case) :
    Describes kind entity changes case :=
  caseOf_eq_iff.mp (same ▸ isCase)

/-! ### The order of the changes -/

theorem Malformed.perm (perm : changes.Perm others) (wrong : Malformed kind entity changes) :
    Malformed kind entity others := by
  rcases wrong with ⟨foreign, member, outside⟩ | ⟨⟨change, member, whole⟩, alone⟩
  · exact .inl ⟨foreign, perm.mem_iff.mp member, outside⟩
  · refine .inr ⟨⟨change, perm.mem_iff.mp member, whole⟩, ?_⟩
    rintro ⟨only, rfl, root⟩
    exact alone ⟨only, List.perm_singleton.mp perm, root⟩

theorem Describes.perm {case : Case} (perm : changes.Perm others)
    (describes : Describes kind entity changes case) : Describes kind entity others case := by
  cases describes with
  | created named affected only =>
    exact .created named affected (List.singleton_perm.mp (only ▸ perm)).symm
  | deleted named affected only =>
    exact .deleted named affected (List.singleton_perm.mp (only ▸ perm)).symm
  | updated named fields =>
    exact .updated named fun change member => fields change (perm.mem_iff.mpr member)
  | unnamed empty => exact .unnamed empty
  | malformed named wrong => exact .malformed named (wrong.perm perm)

theorem caseOf_perm (perm : changes.Perm others) :
    caseOf (Transition.of kind entity changes) = caseOf (Transition.of kind entity others) := by
  obtain ⟨case, describes⟩ := exists_describes kind entity changes
  rw [caseOf_eq_iff.mpr describes, caseOf_eq_iff.mpr (describes.perm perm)]

end

/-! ### Groups of changes between two spaces -/

/-- What the differ finds under a name describes a transition. -/
theorem of_entityDiff {α : Type} (schema : Schema α) {name : String} (named : name ≠ "")
    (live desired : Option α) :
    ∃ transition,
      Transition.of schema.kind name (schema.entityDiff name live desired) = .ok transition := by
  cases live with
  | none =>
    cases desired with
    | none => exact ⟨_, Plan.transition_updated named (.nil _)⟩
    | some record => exact ⟨_, Plan.transition_created named (schema.wrap record)⟩
  | some held =>
    cases desired with
    | none => exact ⟨_, Plan.transition_deleted named (schema.wrap held)⟩
    | some record => exact ⟨_, Plan.transition_updated named (schema.fieldsOf _ held record)⟩

theorem of_group {live desired : Space} {groups : ChangeGroups}
    (built : ChangeGroups.build (live.diff desired) = .ok groups) {kind : EntityKind}
    {name : String} {group : List Change} (found : (groups.keyed kind).get? name = some group) :
    ∃ transition, Transition.of kind name group = .ok transition := by
  have isKeyed : kind ≠ .developers := by
    rintro rfl
    cases found
  -- A group is what the differ finds under its name, and the name is not empty.
  have grouped := (ChangeGroups.get?_keyed_build built isKeyed name).symm.trans found
  rw [ChangeGroups.group?] at grouped
  split at grouped
  next => cases grouped
  next some =>
    cases grouped
    obtain ⟨first, member⟩ :=
      List.exists_mem_of_ne_nil _ fun empty => some (List.isEmpty_iff.mpr empty)
    obtain ⟨inside, within⟩ := List.mem_filter.mp member
    have named := ChangeGroups.nonempty_of_build built isKeyed inside within
    cases kind with
    | applications =>
      rw [filter_diff_application]
      exact of_entityDiff Application.schema named _ _
    | services =>
      rw [filter_diff_service]
      exact of_entityDiff Service.schema named _ _
    | developers => exact absurd rfl isKeyed

/-! ### All lists of changes -/

open ChangeGroups in
/-- What comes of a list of changes is a matter of the changes in it, whatever their order, and the
group of an entity always describes a transition. -/
theorem transition_iff (kind : EntityKind) (entity : String) (changes : List Change) :
    ((∃ message, Transition.of kind entity changes = .error (.plan (.precondition message))) ↔
      entity = "") ∧
    ((∃ message,
        Transition.of kind entity changes = .error (.plan (.invariant kind entity message))) ↔
      entity ≠ "" ∧ Malformed kind entity changes) ∧
    (∀ affected, Transition.of kind entity changes = .ok (.create affected) ↔
      entity ≠ "" ∧ changes = [⟨.ofEntity kind entity, affected, .objectAdded⟩]) ∧
    (∀ affected, Transition.of kind entity changes = .ok (.delete affected) ↔
      entity ≠ "" ∧ changes = [⟨.ofEntity kind entity, affected, .objectRemoved⟩]) ∧
    (∀ given, Transition.of kind entity changes = .ok (.update given) ↔
      entity ≠ "" ∧ given = changes ∧
        ∀ change ∈ changes, change.isWithin kind entity = true ∧ ¬ change.IsWhole) ∧
    (∃ case, caseOf (Transition.of kind entity changes) = some case) ∧
    (∀ others, changes.Perm others →
      caseOf (Transition.of kind entity changes) = caseOf (Transition.of kind entity others)) ∧
    ∀ (live desired : Space) groups group, build (live.diff desired) = .ok groups →
      (groups.keyed kind).get? entity = some group →
      ∃ transition, Transition.of kind entity group = .ok transition := by
  have described {case : Case} {result : Except Error Transition}
      (same : Transition.of kind entity changes = result) (isCase : caseOf result = some case) :
      Describes kind entity changes case := caseOf_eq_iff.mp (same ▸ isCase)
  -- Each equivalence is read off the case from left to right, and computed from right to left.
  refine ⟨⟨?_, ?_⟩, ⟨?_, ?_⟩, fun affected => ⟨?_, ?_⟩, fun affected => ⟨?_, ?_⟩,
    fun given => ⟨?_, ?_⟩, ?_, fun _ => caseOf_perm,
    fun _ _ _ _ built found => of_group built found⟩
  · rintro ⟨message, refused⟩
    cases described refused rfl with
    | unnamed empty => exact empty
  · rintro rfl
    exact ⟨_, of_unnamed kind changes⟩
  · rintro ⟨message, refused⟩
    cases described refused rfl with
    | malformed named wrong => exact ⟨named, wrong⟩
  · rintro ⟨named, wrong⟩
    exact of_malformed named wrong
  · intro made
    cases described made rfl with
    | created named other only =>
      rw [only, Plan.transition_created named] at made
      cases made
      exact ⟨named, only⟩
  · rintro ⟨named, rfl⟩
    exact Plan.transition_created named affected
  · intro deleted
    cases described deleted rfl with
    | deleted named other only =>
      rw [only, Plan.transition_deleted named] at deleted
      cases deleted
      exact ⟨named, only⟩
  · rintro ⟨named, rfl⟩
    exact Plan.transition_deleted named affected
  · intro updated
    cases described updated rfl with
    | updated named fields =>
      rw [of_updated named fields] at updated
      cases updated
      exact ⟨named, rfl, fields⟩
  · rintro ⟨named, rfl, fields⟩
    exact of_updated named fields
  · obtain ⟨case, describes⟩ := exists_describes kind entity changes
    exact ⟨case, caseOf_eq_iff.mpr describes⟩

/-- A whole record beside a field is malformed on either side of it, and the group of an application
that is only desired makes it. -/
theorem transition_iff_mixed :
    let root : Path := .ofEntity .applications "web"
    let added : Change := ⟨root, .application {}, .objectAdded⟩
    let field : Change := ⟨root.child "path", .application {}, .value none (some "bits")⟩
    let desired : Space := { applications := .ofList [("web", {})] }
    (∃ message, Transition.of .applications "web" [added, field] =
      .error (.plan (.invariant .applications "web" message))) ∧
    caseOf (Transition.of .applications "web" [added, field]) =
      caseOf (Transition.of .applications "web" [field, added]) ∧
    ∃ groups, ChangeGroups.build (Space.empty.diff desired) = .ok groups ∧
      (groups.keyed .applications).get? "web" = some [added] ∧
      ∃ transition, Transition.of .applications "web" [added] = .ok transition := by
  intro root added field desired
  obtain ⟨-, malformed, -, -, -, -, perm, grouped⟩ :=
    transition_iff .applications "web" [added, field]
  refine ⟨malformed.mpr ⟨by decide, .inr ⟨⟨added, List.mem_cons_self, .inl rfl⟩, ?_⟩⟩,
    perm _ (.swap field added []), _, rfl, rfl, grouped Space.empty desired _ _ rfl rfl⟩
  -- A record that is added has to be the only change.
  rintro ⟨only, same, -⟩
  cases same

end Transition

end CloudSpace
