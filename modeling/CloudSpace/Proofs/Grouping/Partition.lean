import CloudSpace.Proofs.Grouping
import Mathlib.Data.List.Induction
import Mathlib.Data.List.Perm.Basic

/-!
# Grouping is a stable partition

The path of a change names the one place the change goes to: the group of an application or of a
service, or the place of the developers' change. A group holds the changes of its place in the
order of the list, so that the groups together are a permutation of the list. Grouping fails at the
first change that has no place, or whose place is not for it, and the error is that of this change.
-/
namespace CloudSpace

/-! ### Places -/

/-- A place for changes. -/
inductive Slot
  | application (name : String)
  | service (name : String)
  | developers
deriving DecidableEq, Repr

/-- The place a path leads to. -/
def Path.slot? (path : Path) : Option Slot :=
  match path.kind? with
  | some .applications => path.entity?.map .application
  | some .services => path.entity?.map .service
  | some .developers => some .developers
  | none => none

theorem slot?_eq_application_iff {change : Change} {name : String} :
    change.path.slot? = some (.application name) ↔
      change.isWithin .applications name = true := by
  rw [Path.slot?, Change.isWithin]
  split <;> simp_all

theorem slot?_eq_service_iff {change : Change} {name : String} :
    change.path.slot? = some (.service name) ↔ change.isWithin .services name = true := by
  rw [Path.slot?, Change.isWithin]
  split <;> simp_all

theorem slot?_eq_developers_iff {change : Change} :
    change.path.slot? = some .developers ↔ change.path.kind? = some .developers := by
  rw [Path.slot?]
  split <;> simp_all

/-- Taking the elements of each of several distinct keys takes every element that has one of the
keys. -/
theorem flatMap_filter_perm {α κ : Type} [DecidableEq κ] (key? : α → Option κ) (all : List α)
    {keys : List κ} (distinct : keys.Nodup) :
    (keys.flatMap fun key => all.filter (fun one => key? one = some key)).Perm
      (all.filter fun one => (key? one).any (· ∈ keys)) := by
  induction keys with
  | nil => simp
  | cons key rest ih =>
    obtain ⟨fresh, distinctRest⟩ := List.nodup_cons.mp distinct
    -- What has one of the keys is split into what has the first and what has one of the rest.
    let kept := all.filter fun one => (key? one).any (· ∈ key :: rest)
    have first : kept.filter (fun one => key? one = some key) =
        all.filter fun one => key? one = some key := by
      rw [List.filter_filter]
      apply List.filter_congr
      intro one _
      cases key? one <;> simp +contextual
    have others : kept.filter (fun one => !decide (key? one = some key)) =
        all.filter fun one => (key? one).any (· ∈ rest) := by
      rw [List.filter_filter]
      -- The first key is new among the keys, so no change has both it and one of the rest.
      apply List.filter_congr
      intro one _
      cases found : key? one with
      | none => simp
      | some other =>
        by_cases same : other = key
        · subst same
          simp [fresh]
        · simp [same]
    have split := List.filter_append_perm (fun one => decide (key? one = some key)) kept
    rw [first, others] at split
    rw [List.flatMap_cons]
    exact ((ih distinctRest).append_left _).trans split

namespace ChangeGroups

/-- The changes in a place. -/
def held (groups : ChangeGroups) : Slot → List Change
  | .application name => (groups.applications.get? name).getD []
  | .service name => (groups.services.get? name).getD []
  | .developers => groups.developers.toList

/-- The places that may hold changes. -/
def slots (groups : ChangeGroups) : List Slot :=
  groups.applications.keys.map .application ++ groups.services.keys.map .service ++ [.developers]

theorem nodup_slots (groups : ChangeGroups) : groups.slots.Nodup := by
  have distinct {α : Type} (names : NameMap α) : names.keys.Nodup :=
    names.ascending_keys.imp String.ne_of_lt
  simp only [slots, List.nodup_append, List.mem_append, List.mem_map, List.mem_singleton]
  refine ⟨⟨(distinct _).map fun _ _ => Slot.application.inj,
    (distinct _).map fun _ _ => Slot.service.inj, ?_⟩, List.nodup_singleton _, ?_⟩
  · rintro _ ⟨name, _, rfl⟩ _ ⟨other, _, rfl⟩
    simp
  · rintro _ (⟨name, _, rfl⟩ | ⟨name, _, rfl⟩) _ rfl <;> simp

theorem mem_slots_of_mem_held {groups : ChangeGroups} {slot : Slot} {change : Change}
    (member : change ∈ groups.held slot) : slot ∈ groups.slots := by
  have bound {names : NameMap (List Change)} {name : String}
      (inside : change ∈ (names.get? name).getD []) : name ∈ names.keys := by
    rw [NameMap.mem_keys]
    cases found : names.get? name with
    | none => simp [found] at inside
    | some _ => rfl
  cases slot with
  | application name => simp [slots, bound member]
  | service name => simp [slots, bound member]
  | developers => simp [slots]

/-- Going through the groups is going through the places. -/
theorem toList_eq_flatMap_held (groups : ChangeGroups) :
    groups.toList = groups.slots.flatMap groups.held := by
  have values (names : NameMap (List Change)) : names.values.flatten =
      names.keys.flatMap fun name => (names.get? name).getD [] := by
    have byName := names.flatMap_entries names.keys names.ascending_keys (fun _ => id)
      (fun _ group => group)
    simpa [NameMap.values, List.flatMap_def] using byName
  simp only [toList, slots, values, List.flatMap_append, List.flatMap_map, List.flatMap_singleton,
    held]

theorem count_eq_length (groups : ChangeGroups) : groups.count = groups.toList.length := by
  have total (all : List (List Change)) : totalLength all = all.flatten.length := by
    induction all with
    | nil => rfl
    | cons group rest ih =>
      rw [List.flatten_cons, List.length_append, ← ih]
      rfl
  rw [count, toList, List.length_append, List.length_append, total, total]
  cases groups.developers <;> rfl

/-! ### The developers' change -/

theorem developers_add {groups after : ChangeGroups} {change : Change}
    (added : groups.add change = .ok after) :
    after.developers.toList = groups.developers.toList ++
      [change].filter fun change => change.path.kind? = some .developers := by
  rcases add_eq_ok_iff.mp added with ⟨kind, name, isKeyed, within, _, rfl⟩ |
    ⟨section?, _, free, rfl⟩
  · simp only [Change.isWithin, Bool.and_eq_true, decide_eq_true_eq] at within
    cases kind <;> simp_all [put]
  · simp [section?, free]

theorem build_concat (changes : List Change) (change : Change) :
    build (changes ++ [change]) = build changes >>= fun groups => groups.add change := by
  rw [build, List.foldlM_append]
  congr 1
  funext groups
  exact bind_pure _

/-- The developers' group is what the changes have of their section. -/
theorem developers_build {changes : List Change} {groups : ChangeGroups}
    (built : build changes = .ok groups) :
    groups.developers.toList =
      changes.filter fun change => change.path.kind? = some .developers := by
  induction changes using List.reverseRecOn generalizing groups with
  | nil => cases built; rfl
  | append_singleton earlier change ih =>
    rw [build_concat] at built
    cases builtEarlier : build earlier with
    | error error => simp [builtEarlier, bind, Except.bind] at built
    | ok before =>
      rw [builtEarlier] at built
      rw [developers_add built, ih builtEarlier, List.filter_append]

/-! ### Faults -/

/-- A change of a keyed section that does not say of which entity. -/
def nameless (change : Change) : PlanError :=
  .precondition s!"change path '{change.path.text}' does not name an entity"

/-- Why a change cannot be put behind earlier ones. -/
inductive Fault (earlier : List Change) (change : Change) : PlanError → Prop
  | noKind (absent : change.path.kind? = none) :
    Fault earlier change
      (.precondition s!"change path '{change.path.text}' does not start with an entity kind")
  | noEntity {kind : EntityKind} (section? : change.path.kind? = some kind)
    (isKeyed : kind ≠ .developers) (unnamed : ∀ name, change.path.entity? = some name → name = "") :
    Fault earlier change (nameless change)
  | noCollection (section? : change.path.kind? = some .developers)
    (other : isCollection change.difference = false) :
    Fault earlier change (.invariant .developers "" s!"unexpected {change.difference.name} change")
  | second (section? : change.path.kind? = some .developers)
    (collection : isCollection change.difference = true)
    (taken : ∃ first ∈ earlier, first.path.kind? = some .developers) :
    Fault earlier change
      (.invariant .developers "" "more than one change to the space developer list")

/-- No change of a list has a fault. -/
def Faultless (changes : List Change) : Prop :=
  ∀ before change after cause, changes = before ++ change :: after → ¬ Fault before change cause

/-- The first change of a list that has a fault has this one. -/
def FirstFault (changes : List Change) (cause : PlanError) : Prop :=
  ∃ before change after,
    changes = before ++ change :: after ∧ Faultless before ∧ Fault before change cause

theorem faultless_nil : Faultless [] := by
  intro before change after cause split
  simp at split

theorem faultless_concat {changes : List Change} {change : Change} (faultless : Faultless changes)
    (fine : ∀ cause, ¬ Fault changes change cause) : Faultless (changes ++ [change]) := by
  intro before other after cause split
  rcases List.eq_nil_or_concat after with rfl | ⟨rest, last, rfl⟩
  · obtain ⟨rfl, same⟩ := List.append_inj' split rfl
    cases same
    exact fine cause
  · rw [List.concat_eq_append, ← List.cons_append, ← List.append_assoc] at split
    obtain ⟨same, _⟩ := List.append_inj' split rfl
    exact faultless before other rest cause same

/-- The first fault stays the first one, whatever comes after it. -/
theorem FirstFault.append {changes : List Change} {cause : PlanError}
    (fault : FirstFault changes cause) (more : List Change) :
    FirstFault (changes ++ more) cause := by
  obtain ⟨before, change, after, rfl, faultless, first⟩ := fault
  exact ⟨before, change, after ++ more, by simp, faultless, first⟩

theorem entityOf_eq_error_iff {change : Change} {error : Error} :
    entityOf change = .error error ↔
      (∀ name, change.path.entity? = some name → name = "") ∧
        error = .plan (nameless change) := by
  rw [entityOf, nameless]
  cases change.path.entity? with
  | none => simp [eq_comm (a := error)]
  | some name => by_cases empty : name = "" <;> simp [empty, eq_comm (a := error)]

section

variable {groups : ChangeGroups} {earlier : List Change} {change : Change}

/-- Groups of earlier changes hold the developers' change if there is one among these. -/
theorem isSome_developers_iff (developers : groups.developers.toList =
      earlier.filter fun change => change.path.kind? = some .developers) :
    groups.developers.isSome = true ↔ ∃ first ∈ earlier, first.path.kind? = some .developers := by
  rw [Option.isSome_iff_exists]
  simp only [← Option.mem_toList, developers, List.mem_filter, decide_eq_true_eq]

theorem add_of_fault (developers : groups.developers.toList =
      earlier.filter fun change => change.path.kind? = some .developers) {cause : PlanError}
    (fault : Fault earlier change cause) : groups.add change = .error (.plan cause) := by
  cases fault with
  | noKind absent => simp [add, absent]
  | @noEntity kind section? isKeyed unnamed =>
    have refused := entityOf_eq_error_iff.mpr ⟨unnamed, rfl⟩
    cases kind with
    | applications => simp [add, section?, refused, bind, Except.bind]
    | services => simp [add, section?, refused, bind, Except.bind]
    | developers => exact absurd rfl isKeyed
  | noCollection section? other => simp [add, section?, other]
  | second section? collection taken =>
    simp [add, section?, collection, (isSome_developers_iff developers).mpr taken]

/-- A change that is refused has the fault it is refused for. -/
theorem fault_of_add (developers : groups.developers.toList =
      earlier.filter fun change => change.path.kind? = some .developers) {error : Error}
    (failed : groups.add change = .error error) :
    ∃ cause, error = .plan cause ∧ Fault earlier change cause := by
  -- The two keyed sections refuse a change in the same way.
  have unnamed {kind : EntityKind} (section? : change.path.kind? = some kind)
      (isKeyed : kind ≠ .developers) {make : String → ChangeGroups}
      (failed : (do let name ← entityOf change; return make name : Except Error ChangeGroups) =
        .error error) : ∃ cause, error = .plan cause ∧ Fault earlier change cause := by
    cases found : entityOf change with
    | ok name => simp [found, bind, Except.bind, pure, Except.pure] at failed
    | error given =>
      obtain ⟨none, rfl⟩ := entityOf_eq_error_iff.mp found
      rw [found] at failed
      cases failed
      exact ⟨_, rfl, .noEntity section? isKeyed none⟩
  cases section? : change.path.kind? with
  | none =>
    simp only [add, section?, Except.error.injEq] at failed
    exact ⟨_, failed.symm, .noKind section?⟩
  | some kind =>
    simp only [add, section?] at failed
    cases kind with
    | applications => exact unnamed section? (by decide) failed
    | services => exact unnamed section? (by decide) failed
    -- Developers come as one collection, so a second change of theirs is as wrong as another kind.
    | developers =>
      dsimp only at failed
      split at failed
      next other =>
        cases failed
        exact ⟨_, rfl, .noCollection section? (by simpa using other)⟩
      next collection =>
        split at failed
        next taken =>
          cases failed
          exact ⟨_, rfl, .second section? (by simpa using collection)
            ((isSome_developers_iff developers).mp taken)⟩
        next free => cases failed

end

/-- A list without a fault has groups, and otherwise grouping fails with the first fault. -/
theorem build_cases (changes : List Change) :
    (∃ groups, build changes = .ok groups ∧ Faultless changes) ∨
      ∃ cause, build changes = .error (.plan cause) ∧ FirstFault changes cause := by
  -- By induction from the end of the list. What has become of the earlier changes decides whether
  -- the last one is looked at: a fault among them stays the first, and the groups of earlier
  -- changes without a fault refuse the last one exactly if it has a fault behind them.
  induction changes using List.reverseRecOn with
  | nil => exact .inl ⟨{}, rfl, faultless_nil⟩
  | append_singleton earlier change ih =>
    rw [build_concat]
    rcases ih with ⟨groups, built, faultless⟩ | ⟨cause, failed, fault⟩
    · have developers := developers_build built
      rw [built]
      cases added : groups.add change with
      | ok after =>
        refine .inl ⟨after, added, faultless_concat faultless ?_⟩
        intro cause fault
        rw [add_of_fault developers fault] at added
        cases added
      | error error =>
        obtain ⟨cause, rfl, fault⟩ := fault_of_add developers added
        exact .inr ⟨cause, added, earlier, change, [], rfl, faultless, fault⟩
    · rw [failed]
      exact .inr ⟨cause, rfl, fault.append [change]⟩

theorem FirstFault.not_faultless {changes : List Change} {cause : PlanError}
    (fault : FirstFault changes cause) : ¬ Faultless changes := by
  obtain ⟨before, change, after, split, _, first⟩ := fault
  exact fun faultless => faultless before change after cause split first

theorem exists_build_iff {changes : List Change} :
    (∃ groups, build changes = .ok groups) ↔ Faultless changes := by
  rcases build_cases changes with ⟨groups, built, faultless⟩ | ⟨cause, failed, fault⟩
  · exact ⟨fun _ => faultless, fun _ => ⟨groups, built⟩⟩
  · simp [failed, fault.not_faultless]

theorem build_of_firstFault {changes : List Change} {cause : PlanError}
    (fault : FirstFault changes cause) : build changes = .error (.plan cause) := by
  obtain ⟨before, change, after, rfl, faultless, first⟩ := fault
  obtain ⟨groups, built⟩ := exists_build_iff.mpr faultless
  have failed := add_of_fault (developers_build built) first
  rw [build] at built ⊢
  rw [List.foldlM_append, built]
  simp [List.foldlM_cons, failed, bind, Except.bind]

/-! ### Changes of one keyed section -/

section

variable {kind : EntityKind} {changes : List Change}

/-- A change within an entity of a keyed section has no other fault than that its entity has no
name. -/
theorem fault_of_isWithin (isKeyed : kind ≠ .developers) {earlier : List Change} {change : Change}
    {name : String} (within : change.isWithin kind name = true) {cause : PlanError} :
    Fault earlier change cause ↔ name = "" ∧ cause = nameless change := by
  simp only [Change.isWithin, Bool.and_eq_true, decide_eq_true_eq] at within
  obtain ⟨section?, isEntity⟩ := within
  constructor
  · intro fault
    -- The other faults are those of changes in no section or in that of the developers.
    cases fault with
    | noEntity _ _ unnamed => exact ⟨unnamed name isEntity, rfl⟩
    | noKind absent => simp [section?] at absent
    | noCollection isDevelopers => exact absurd (section?.symm.trans isDevelopers) (by simpa)
    | second isDevelopers => exact absurd (section?.symm.trans isDevelopers) (by simpa)
  · rintro ⟨rfl, rfl⟩
    refine .noEntity section? isKeyed fun other isOther => ?_
    exact Option.some.inj (isOther.symm.trans isEntity)

theorem faultless_of_named (isKeyed : kind ≠ .developers)
    (named : ∀ change ∈ changes, ∃ name, change.isWithin kind name = true ∧ name ≠ "") :
    Faultless changes := by
  rintro before change after cause rfl fault
  obtain ⟨name, within, nonempty⟩ := named change (by simp)
  exact nonempty ((fault_of_isWithin isKeyed within).mp fault).1

/-- Changes within named entities have groups. -/
theorem exists_build (kind : EntityKind) (isKeyed : kind ≠ .developers)
    (named : ∀ change ∈ changes, ∃ name, change.isWithin kind name = true ∧ name ≠ "") :
    ∃ groups, build changes = .ok groups :=
  exists_build_iff.mpr (faultless_of_named isKeyed named)

theorem nonempty_of_build {groups : ChangeGroups} (built : build changes = .ok groups)
    (isKeyed : kind ≠ .developers) {change : Change} (member : change ∈ changes) {name : String}
    (within : change.isWithin kind name = true) : name ≠ "" := by
  rintro rfl
  obtain ⟨before, after, split⟩ := List.append_of_mem member
  have faultless := exists_build_iff.mp ⟨groups, built⟩
  exact faultless before change after _ split ((fault_of_isWithin isKeyed within).mpr ⟨rfl, rfl⟩)

/-- Of the changes of a keyed section, the first within the entity without a name is the first
fault. -/
theorem build_eq_error_iff_of_keyed (isKeyed : kind ≠ .developers)
    (keyed : ∀ change ∈ changes, ∃ name, change.isWithin kind name = true) {error : Error} :
    build changes = .error error ↔
      ∃ change rest, changes.filter (·.isWithin kind "") = change :: rest ∧
        error = .plan (nameless change) := by
  have named {all : List Change} (included : ∀ change ∈ all, change ∈ changes)
      (none : ∀ change ∈ all, ¬ change.isWithin kind "" = true) : Faultless all := by
    apply faultless_of_named isKeyed
    intro change member
    obtain ⟨name, within⟩ := keyed change (included change member)
    refine ⟨name, within, ?_⟩
    rintro rfl
    exact none change member within
  have failing {change : Change} {rest : List Change}
      (unnamed : changes.filter (·.isWithin kind "") = change :: rest) :
      build changes = .error (.plan (nameless change)) := by
    -- The first change within the empty name has only named ones before it.
    obtain ⟨before, after, split, none, within, _⟩ := List.filter_eq_cons_iff.mp unnamed
    apply build_of_firstFault
    refine ⟨before, change, after, split, named ?_ none, ?_⟩
    · intro earlier member
      rw [split]
      exact List.mem_append_left _ member
    · exact (fault_of_isWithin isKeyed within).mpr ⟨rfl, rfl⟩
  constructor
  · intro failed
    cases unnamed : changes.filter (·.isWithin kind "") with
    | nil =>
      -- Without a change of the entity without a name nothing is wrong.
      have faultless : Faultless changes :=
        named (fun _ member => member) (List.filter_eq_nil_iff.mp unnamed)
      obtain ⟨groups, built⟩ := exists_build_iff.mpr faultless
      rw [built] at failed
      cases failed
    | cons change rest =>
      rw [failing unnamed] at failed
      cases failed
      exact ⟨change, rest, rfl, rfl⟩
  · rintro ⟨change, rest, unnamed, rfl⟩
    exact failing unnamed

end

/-! ### Groups that partition a list -/

structure Partitions (groups : ChangeGroups) (changes : List Change) : Prop where
  /-- A place holds the changes that lead to it, in their order. -/
  held : ∀ slot, groups.held slot = changes.filter (fun change => change.path.slot? = some slot)
  nonempty : ∀ name group, groups.applications.get? name = some group ∨
    groups.services.get? name = some group → group ≠ []
  unique : ∀ change ∈ changes, ∃! slot, change ∈ groups.held slot
  perm : groups.toList.Perm changes
  count : groups.count = changes.length

section

variable {changes : List Change} {groups : ChangeGroups}

theorem held_build (built : build changes = .ok groups) (slot : Slot) :
    groups.held slot = changes.filter (fun change => change.path.slot? = some slot) := by
  -- A group without changes is not kept, and is read as an empty one.
  have group (all : List Change) : (group? all).getD [] = all := by
    cases all <;> rfl
  have applications : EntityKind.applications ≠ .developers := by decide
  have services : EntityKind.services ≠ .developers := by decide
  cases slot with
  | application name =>
    have found := get?_keyed_build built applications name
    simp only [keyed] at found
    simp only [held, found, group, slot?_eq_application_iff, Bool.decide_eq_true]
  | service name =>
    have found := get?_keyed_build built services name
    simp only [keyed] at found
    simp only [held, found, group, slot?_eq_service_iff, Bool.decide_eq_true]
  | developers =>
    simp only [held, developers_build built, slot?_eq_developers_iff]

theorem mem_held_build (built : build changes = .ok groups) {slot : Slot} {change : Change} :
    change ∈ groups.held slot ↔ change ∈ changes ∧ change.path.slot? = some slot := by
  rw [held_build built, List.mem_filter, decide_eq_true_eq]

theorem nonempty_build (built : build changes = .ok groups) {name : String} {group : List Change}
    (found : groups.applications.get? name = some group ∨
      groups.services.get? name = some group) : group ≠ [] := by
  have filled {all : List Change} (isGroup : group? all = some group) : group ≠ [] := by
    rw [group?] at isGroup
    split at isGroup
    next => cases isGroup
    next some =>
      cases isGroup
      simpa using some
  have applications : EntityKind.applications ≠ .developers := by decide
  have services : EntityKind.services ≠ .developers := by decide
  rcases found with isGroup | isGroup
  · exact filled ((get?_keyed_build built applications name).symm.trans isGroup)
  · exact filled ((get?_keyed_build built services name).symm.trans isGroup)

/-- A change without a fault has a place. -/
theorem exists_slot {earlier : List Change} {change : Change}
    (fine : ∀ cause, ¬ Fault earlier change cause) : ∃ slot, change.path.slot? = some slot := by
  -- In a keyed section a path without an entity would be a fault.
  have named {kind : EntityKind} (section? : change.path.kind? = some kind)
      (isKeyed : kind ≠ .developers) : ∃ name, change.path.entity? = some name := by
    by_contra absent
    exact fine _ (.noEntity section? isKeyed fun name isEntity => absurd ⟨name, isEntity⟩ absent)
  rw [Path.slot?]
  cases section? : change.path.kind? with
  | none => exact absurd (.noKind section?) (fine _)
  | some kind =>
    cases kind with
    | developers => exact ⟨_, rfl⟩
    | applications =>
      obtain ⟨name, isEntity⟩ := named section? (by decide)
      exact ⟨.application name, by simp [isEntity]⟩
    | services =>
      obtain ⟨name, isEntity⟩ := named section? (by decide)
      exact ⟨.service name, by simp [isEntity]⟩

theorem Faultless.exists_slot {change : Change} (faultless : Faultless changes)
    (member : change ∈ changes) : ∃ slot, change.path.slot? = some slot := by
  obtain ⟨before, after, rfl⟩ := List.append_of_mem member
  exact ChangeGroups.exists_slot fun cause => faultless before change after cause rfl

/-- Since every change has a place, the places together hold every change once. -/
theorem perm_build (built : build changes = .ok groups) (faultless : Faultless changes) :
    groups.toList.Perm changes := by
  have all : changes.filter (fun change => change.path.slot?.any (· ∈ groups.slots)) = changes := by
    apply List.filter_eq_self.mpr
    intro change member
    obtain ⟨slot, leads⟩ := faultless.exists_slot member
    have inside := (mem_held_build built).mpr ⟨member, leads⟩
    simpa [leads] using mem_slots_of_mem_held inside
  have gathered := flatMap_filter_perm (fun change => change.path.slot?) changes groups.nodup_slots
  rw [all] at gathered
  rw [toList_eq_flatMap_held, funext (held_build built)]
  exact gathered

theorem partitions_build (built : build changes = .ok groups) (faultless : Faultless changes) :
    groups.Partitions changes where
  held := held_build built
  nonempty _ _ := nonempty_build built
  unique := by
    intro change member
    obtain ⟨slot, leads⟩ := faultless.exists_slot member
    refine ⟨slot, (mem_held_build built).mpr ⟨member, leads⟩, ?_⟩
    intro other inside
    have leadsOther := ((mem_held_build built).mp inside).2
    exact Option.some.inj (leadsOther.symm.trans leads)
  perm := perm_build built faultless
  count := by rw [count_eq_length, (perm_build built faultless).length_eq]

end

end ChangeGroups

open ChangeGroups in
/-- The groups of a list are a stable partition of it. There are none exactly if a change of the
list has a fault, and then the error is the first one. -/
theorem build_partitions (changes : List Change) :
    (∀ groups, build changes = .ok groups → groups.Partitions changes) ∧
    ((∃ error, build changes = .error error) ↔ ¬ Faultless changes) ∧
    ∀ error, build changes = .error error ↔
      ∃ cause, error = .plan cause ∧ FirstFault changes cause := by
  refine ⟨?_, ?_, ?_⟩
  -- What is built, whether anything is, and what it fails with otherwise are shown one by one.
  · intro groups built
    exact partitions_build built (exists_build_iff.mp ⟨groups, built⟩)
  · rw [← exists_build_iff]
    cases build changes <;> simp
  · intro error
    constructor
    · intro failed
      rcases build_cases changes with ⟨groups, built, _⟩ | ⟨cause, first, fault⟩
      · rw [built] at failed
        cases failed
      · rw [first] at failed
        cases failed
        exact ⟨cause, rfl, fault⟩
    · rintro ⟨cause, rfl, fault⟩
      exact build_of_firstFault fault

open ChangeGroups in
/-- Changes of an application and of a service that are both called as a section are kept apart,
and a second change of the developers is refused behind them. -/
theorem build_partitions_interleaved :
    let field (kind : EntityKind) (name field : String) : Change :=
      ⟨(Path.ofEntity kind name).child field, .developers [], .value none (some "new")⟩
    let users (name : String) : Change :=
      ⟨.ofKind .developers, .developers [name], .collection [name] []⟩
    let changes := [field .applications "services" "path", field .services "services" "plan",
      users "ann", field .applications "manifest" "path", field .applications "services" "meta"]
    (∃ groups, build changes = .ok groups ∧ groups.Partitions changes ∧
      groups.held (.application "services") =
        [field .applications "services" "path", field .applications "services" "meta"]) ∧
    ∃ cause, build (changes ++ [users "bob"]) = .error (.plan cause) ∧
      FirstFault (changes ++ [users "bob"]) cause := by
  intro field users changes
  constructor
  -- The groups themselves need not be written out: the partition says what is in them.
  · have built : (build changes).isOk = true := by decide +kernel
    cases found : build changes with
    | error error => simp [found, Except.isOk, Except.toBool] at built
    | ok groups =>
      have partition := (build_partitions changes).1 groups found
      refine ⟨groups, rfl, partition, ?_⟩
      rw [partition.held]
      decide +kernel
  -- A second change of the developers is the first thing that is wrong.
  · have failed : (build (changes ++ [users "bob"])).isOk = false := by decide +kernel
    cases found : build (changes ++ [users "bob"]) with
    | ok groups => simp [found, Except.isOk, Except.toBool] at failed
    | error error =>
      obtain ⟨cause, rfl, first⟩ := ((build_partitions _).2.2 error).mp found
      exact ⟨cause, rfl, first⟩

end CloudSpace
