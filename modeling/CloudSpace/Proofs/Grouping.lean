import CloudSpace.Grouping
import CloudSpace.Proofs.Diff

/-!
# Groups of changes

The group of an entity is the sublist of the changes that lie within it, and an entity without
changes has no group. Both are read off what adding one change does to the groups made so far.
-/
namespace CloudSpace.ChangeGroups

/-- The groups of a keyed section. -/
def keyed (groups : ChangeGroups) : EntityKind → NameMap (List Change)
  | .applications => groups.applications
  | .services => groups.services
  | .developers => ∅

/-- A list as a group, which is never empty. -/
def group? (changes : List Change) : Option (List Change) :=
  if changes.isEmpty then none else some changes

/-! ### One more change -/

theorem entityOf_eq_ok_iff {change : Change} {name : String} :
    entityOf change = .ok name ↔ change.path.entity? = some name ∧ name ≠ "" := by
  have isEmpty (text : String) : text.isEmpty = true ↔ text = "" := by simp
  rw [entityOf]
  split
  -- The empty name is refused as if there was none.
  next found held =>
    split
    next empty =>
      simp only [reduceCtorEq, held, Option.some.injEq, false_iff, not_and, not_not]
      rintro rfl
      exact (isEmpty _).mp empty
    next named =>
      simp only [Except.ok.injEq, held, Option.some.injEq]
      constructor
      · rintro rfl
        exact ⟨rfl, fun empty => named ((isEmpty _).mpr empty)⟩
      · exact And.left
  next missing => simp [missing]

theorem get?_addTo (groups : NameMap (List Change)) (name : String) (change : Change)
    (other : String) :
    (addTo groups name change).get? other =
      if other = name then some ((groups.get? other).getD [] ++ [change])
      else groups.get? other := by
  rw [addTo, NameMap.get?_insert]
  split
  next same => rw [same]
  next => rfl

/-- The groups with a change at the end of the group of an entity in a keyed section. -/
def put (groups : ChangeGroups) (kind : EntityKind) (name : String) (change : Change) :
    ChangeGroups :=
  match kind with
  | .applications => { groups with applications := addTo groups.applications name change }
  | .services => { groups with services := addTo groups.services name change }
  | .developers => groups

theorem get?_keyed_put {place : EntityKind} (isKeyed : place ≠ .developers)
    (groups : ChangeGroups) (target : String) (change : Change) (kind : EntityKind)
    (name : String) :
    ((groups.put place target change).keyed kind).get? name =
      if place = kind ∧ name = target then
        some (((groups.keyed kind).get? name).getD [] ++ [change])
      else (groups.keyed kind).get? name := by
  cases place <;> cases kind <;> simp_all [put, keyed, get?_addTo]

/-- What adding a change can do: it goes to the group of its entity, or becomes the change of the
developers. -/
theorem add_eq_ok_iff {groups after : ChangeGroups} {change : Change} :
    groups.add change = .ok after ↔
      (∃ kind name, kind ≠ .developers ∧ change.isWithin kind name = true ∧ name ≠ "" ∧
        after = groups.put kind name change) ∨
      (change.path.kind? = some .developers ∧ isCollection change.difference = true ∧
        groups.developers = none ∧ after = { groups with developers := some change }) := by
  -- Both keyed sections ask for the name of the entity and put the change there.
  have named (make : String → ChangeGroups) :
      (do let name ← entityOf change; return make name : Except Error ChangeGroups) = .ok after ↔
        ∃ name, change.path.entity? = some name ∧ name ≠ "" ∧ after = make name := by
    cases found : entityOf change with
    | error error =>
      simp only [bind, Except.bind, reduceCtorEq, false_iff, not_exists, not_and]
      intro name isEntity nonempty
      rw [entityOf_eq_ok_iff.mpr ⟨isEntity, nonempty⟩] at found
      cases found
    | ok name =>
      obtain ⟨isEntity, nonempty⟩ := entityOf_eq_ok_iff.mp found
      simp [bind, Except.bind, pure, Except.pure, isEntity, nonempty, eq_comm]
  simp only [add, Change.isWithin]
  cases section? : change.path.kind? with
  | none => simp
  | some kind =>
    cases kind with
    | applications => exact (named _).trans (by simp [put])
    | services => exact (named _).trans (by simp [put])
    | developers =>
      -- The developers have no entities; what is left is that one change is their collection.
      rw [or_iff_right (by rintro ⟨kind, name, isKeyed, within, _⟩; simp_all)]
      cases isCollection change.difference <;> cases groups.developers <;> simp [eq_comm]

/-- Each group gets the changes within its entity, as they come. -/
theorem get?_keyed_add {groups after : ChangeGroups} {change : Change}
    (added : groups.add change = .ok after) {kind : EntityKind} (isKeyed : kind ≠ .developers)
    (name : String) :
    (after.keyed kind).get? name =
      if change.isWithin kind name then some (((groups.keyed kind).get? name).getD [] ++ [change])
      else (groups.keyed kind).get? name := by
  -- The change was put into its own group, or it is the one change of the developers.
  rcases add_eq_ok_iff.mp added with ⟨place, target, isKeyedPlace, within, _, rfl⟩ |
    ⟨section?, _, _, rfl⟩
  · have here : change.isWithin kind name = true ↔ place = kind ∧ name = target := by
      simp only [Change.isWithin, Bool.and_eq_true, decide_eq_true_eq] at within ⊢
      simp only [within, Option.some.injEq, eq_comm (a := target)]
    rw [get?_keyed_put isKeyedPlace]
    simp only [here]
  · have elsewhere : change.isWithin kind name = false := by
      rw [Change.isWithin, section?]
      cases kind <;> first | rfl | exact absurd rfl isKeyed
    rw [elsewhere]
    cases kind <;> rfl

/-! ### All changes -/

theorem foldlM_add_cons {groups after : ChangeGroups} {change : Change} {changes : List Change} :
    (change :: changes).foldlM add groups = .ok after ↔
      ∃ middle, groups.add change = .ok middle ∧ changes.foldlM add middle = .ok after := by
  rw [List.foldlM_cons]
  cases groups.add change <;> simp [bind, Except.bind]

theorem get?_keyed_foldlM {changes : List Change} {groups after : ChangeGroups}
    (built : changes.foldlM add groups = .ok after) {kind : EntityKind}
    (isKeyed : kind ≠ .developers) (name : String) :
    (after.keyed kind).get? name =
      if changes.any (·.isWithin kind name) then
        some (((groups.keyed kind).get? name).getD [] ++
          changes.filter (·.isWithin kind name))
      else (groups.keyed kind).get? name := by
  -- The groups made so far vary, since each change is added to those of the changes before it.
  induction changes generalizing groups with
  | nil => cases built; simp
  | cons change rest ih =>
    obtain ⟨middle, added, builtRest⟩ := foldlM_add_cons.mp built
    rw [ih builtRest, get?_keyed_add added isKeyed]
    cases within : change.isWithin kind name with
    | false => simp [within]
    | true =>
      by_cases more : rest.any (·.isWithin kind name) = true
      · simp [within, more]
      -- This is the last change of the entity, and its group is complete.
      · have none : rest.filter (·.isWithin kind name) = [] := by simpa using more
        simp [within, more, none]

/-- The group of an entity is the list of the changes within it. -/
theorem get?_keyed_build {changes : List Change} {groups : ChangeGroups}
    (built : build changes = .ok groups) {kind : EntityKind} (isKeyed : kind ≠ .developers)
    (name : String) :
    (groups.keyed kind).get? name = group? (changes.filter (·.isWithin kind name)) := by
  have start : (({} : ChangeGroups).keyed kind).get? name = none := by cases kind <;> rfl
  rw [get?_keyed_foldlM built isKeyed, start, group?]
  by_cases none : changes.any (·.isWithin kind name) = true
  · have some : ¬ (changes.filter (·.isWithin kind name)).isEmpty = true := by simpa using none
    rw [if_pos none, if_neg some, Option.getD_none, List.nil_append]
  · have empty : (changes.filter (·.isWithin kind name)).isEmpty = true := by simpa using none
    rw [if_neg none, if_pos empty]

end CloudSpace.ChangeGroups
