import CloudSpace.Proofs.Diff.Exact
import CloudSpace.Proofs.Reconcile.DryRun

/-!
# What ends a run

Planning a kind and reconciling it end with an error in two cases: the live entities cannot be
fetched, or something is to be done about an entity whose name is empty, which keeps every other
entity of the kind from being planned as well. Any other error of an entity is confined to it: the
entity is skipped, with the error as the reason, and the calls for the others are planned and made.
-/
namespace CloudSpace

/-- The changes of one entity. -/
def Space.changesOf (kind : EntityKind) (name : String) (live desired : Space) : List Change :=
  ((live.restrict kind).diff (desired.restrict kind)).filter (·.isWithin kind name)

namespace Memory

/-- How a kind ends a run. -/
inductive Aborts (memory : Memory) (spec : Spec) (kind : EntityKind) : Error → Prop
  | fetch (present : (spec.restrict? kind).isSome = true)
    (failing : memory.fails (fetchName kind) "" = true) :
    Aborts memory spec kind (.fetch kind (injected (fetchName kind) ""))
  | nameless (present : (spec.restrict? kind).isSome = true)
    (fetches : memory.fails (fetchName kind) "" = false) {change : Change} {rest : List Change}
    (unnamed : Space.changesOf kind "" memory.space spec.toSpace = change :: rest) :
    Aborts memory spec kind (.plan (ChangeGroups.nameless change))

/-- How several kinds end a run: the first of them that does ends it. -/
def AbortsFirst (memory : Memory) (spec : Spec) (kinds : List EntityKind) (error : Error) : Prop :=
  ∃ before kind after, kinds = before ++ kind :: after ∧
    (∀ earlier ∈ before, ∀ other, ¬ memory.Aborts spec earlier other) ∧
    memory.Aborts spec kind error

/-- Every entity of a kind that has changes is planned or skipped, and nothing else is. -/
def Accounts (memory : Memory) (spec : Spec) (kind : EntityKind) (skipped : List Skipped)
    (operations : List PlannedOperation) : Prop :=
  ∃ groups, ChangeGroups.build
      ((memory.space.restrict kind).diff (spec.toSpace.restrict kind)) = .ok groups ∧
    skipped = (Batch.groupsOf kind groups).flatMap (fun group =>
      (Plan.ofKind kind group.1 group.2).skips group.1) ∧
    operations = (Batch.groupsOf kind groups).flatMap (fun group =>
      (Plan.ofKind kind group.1 group.2).callList.map Call.planned)

end Memory

/-! ### One kind -/

/-- Grouping the changes of a kind fails for the first change of the empty name. -/
theorem build_diff_eq_error_iff {kind : EntityKind} {live desired : Space} {error : Error} :
    ChangeGroups.build ((live.restrict kind).diff (desired.restrict kind)) = .error error ↔
      ∃ change rest, Space.changesOf kind "" live desired = change :: rest ∧
        error = .plan (ChangeGroups.nameless change) := by
  rw [Space.changesOf]
  -- The keyed sections have changes of entities only, which is all their grouping asks for.
  cases kind with
  | applications =>
    rw [diff_restrict_applications]
    apply ChangeGroups.build_eq_error_iff_of_keyed (by decide)
    intro change member
    obtain ⟨name, _, within⟩ := isWithin_of_mem_diff _ _ _ Application.fieldsOf_diff member
    exact ⟨name, within⟩
  | services =>
    rw [diff_restrict_services]
    apply ChangeGroups.build_eq_error_iff_of_keyed (by decide)
    intro change member
    obtain ⟨name, _, within⟩ := isWithin_of_mem_diff _ _ _ Service.fieldsOf_diff member
    exact ⟨name, within⟩
  | developers =>
    -- The developers have one change at most, which is of the whole section.
    rw [diff_restrict_developers]
    have sectionWide : (developersDiff live.developers desired.developers).filter
        (·.isWithin .developers "") = [] := by
      apply List.filter_eq_nil_iff.mpr
      intro change member
      rw [Change.isWithin, path_of_mem_developersDiff member]
      decide
    rcases Plan.developersDiff_cases live.developers desired.developers with
      ⟨same, _⟩ | ⟨change, one, grouped, _⟩
    · simp [same, ChangeGroups.build, pure, Except.pure]
    · rw [one] at sectionWide ⊢
      simp [grouped, sectionWide]

namespace Memory

variable {memory : Memory} {spec : Spec} {kind : EntityKind}

theorem map_eq_error_iff {α β : Type} {result : Except Error α} {f : α → β} {error : Error} :
    result.map f = .error error ↔ result = .error error := by
  cases result <;> simp [Except.map]

theorem prepared_eq_error_iff {error : Error} :
    memory.prepared spec kind = .error error ↔ memory.Aborts spec kind error := by
  rw [prepared]
  cases present : spec.restrict? kind with
  | none =>
    -- An absent section is not even fetched.
    simp only [reduceCtorEq, false_iff]
    intro aborts
    cases aborts <;> simp_all
  | some desired =>
    have isPresent : (spec.restrict? kind).isSome = true := by simp [present]
    dsimp only
    rw [map_eq_error_iff, grouped_eq memory present]
    -- Live entities are fetched before anything is grouped, so that a failing fetch is the error.
    cases fetches : memory.fails (fetchName kind) "" with
    | true =>
      simp only [if_true, Except.error.injEq]
      constructor
      · rintro rfl
        exact .fetch isPresent fetches
      · intro aborts
        cases aborts with
        | fetch => rfl
        | nameless _ passes => simp [fetches] at passes
    | false =>
      simp only [Bool.false_eq_true, if_false, build_diff_eq_error_iff]
      constructor
      · rintro ⟨change, rest, unnamed, rfl⟩
        exact .nameless isPresent fetches unnamed
      · intro aborts
        cases aborts with
        | fetch _ failing => simp [fetches] at failing
        | @nameless _ _ change rest unnamed => exact ⟨change, rest, unnamed, rfl⟩

theorem applied_eq_error_iff {error : Error} :
    (memory.applied spec kind).1 = .error error ↔ memory.Aborts spec kind error := by
  rw [← prepared_eq_error_iff]
  cases prepared : memory.prepared spec kind with
  | error given => simp [applied, prepared]
  | ok found => simp [applied_of_prepared prepared]

theorem accounts_of_prepared {preparation : Preparation}
    (prepared : memory.prepared spec kind = .ok (some preparation)) :
    memory.Accounts spec kind preparation.planned.skipped preparation.planned.operations := by
  obtain ⟨_, _, groups, built, isBatch⟩ := groups_of_prepared prepared
  obtain ⟨calls, skipped⟩ := Batch.of_eq kind groups
  refine ⟨groups, built, ?_, ?_⟩
  · rw [Preparation.planned, isBatch, skipped]
  · rw [Preparation.planned, isBatch, calls, List.map_flatMap]

/-- Reports on what was done account for what the reports that foretell them do. -/
theorem accounts_of_foretells {plans : List PlanReport} {reports : List RunReport}
    (agree : List.Forall₂ PlanReport.Foretells plans reports)
    (accounts : ∀ plan ∈ plans, memory.Accounts spec plan.kind plan.skipped plan.operations) :
    ∀ report ∈ reports, memory.Accounts spec report.kind report.skipped
      (report.outcomes.map Outcome.operation) := by
  induction agree with
  | nil => simp
  | cons foretells _ ih =>
    rw [List.forall_mem_cons] at accounts ⊢
    refine ⟨?_, ih accounts.2⟩
    rw [← foretells.kind, ← foretells.skipped, ← foretells.operations]
    exact accounts.1

/-! ### Several kinds -/

theorem plannedEach_eq_error_iff {kinds : List EntityKind} {error : Error} :
    memory.plannedEach spec kinds = .error error ↔ memory.AbortsFirst spec kinds error := by
  -- The dry run goes through the kinds in their order, and so does the search for the first of them
  -- that ends it.
  induction kinds with
  | nil =>
    simp only [plannedEach, reduceCtorEq, false_iff]
    rintro ⟨before, kind, after, split, _⟩
    simp at split
  | cons kind rest ih =>
    rw [plannedEach]
    cases prepared : memory.prepared spec kind with
    | error given =>
      -- The first kind ends the run itself, so that no kind behind it can be the first to do so.
      have aborts := prepared_eq_error_iff.mp prepared
      simp only [bind, Except.bind, Except.error.injEq]
      constructor
      · rintro rfl
        exact ⟨[], kind, rest, rfl, by simp, aborts⟩
      · rintro ⟨before, first, after, split, fine, abortsFirst⟩
        rcases List.cons_eq_append_iff.mp split with ⟨rfl, same⟩ | ⟨earlier, rfl, _⟩
        · cases same
          rw [prepared_eq_error_iff.mpr abortsFirst] at prepared
          cases prepared
          rfl
        · exact absurd aborts (fine kind List.mem_cons_self given)
    | ok found =>
      -- The first kind does not end the run, which is left to the kinds behind it.
      have fine : ∀ other, ¬ memory.Aborts spec kind other := by
        intro other aborts
        rw [prepared_eq_error_iff.mpr aborts] at prepared
        cases prepared
      have later : (do
          let reports ← memory.plannedEach spec rest
          return (found.map Preparation.planned).toList ++ reports) =
            .error error ↔ memory.plannedEach spec rest = .error error := by
        cases memory.plannedEach spec rest <;> simp [bind, Except.bind, pure, Except.pure]
      refine later.trans (ih.trans ?_)
      constructor
      · rintro ⟨before, first, after, rfl, fineBefore, abortsFirst⟩
        exact ⟨kind :: before, first, after, rfl, by simpa using ⟨fine, fineBefore⟩, abortsFirst⟩
      · rintro ⟨before, first, after, split, fineBefore, abortsFirst⟩
        rcases List.cons_eq_append_iff.mp split with ⟨rfl, same⟩ | ⟨earlier, rfl, same⟩
        · cases same
          exact absurd abortsFirst (fine error)
        · exact ⟨earlier, first, after, same,
            fun one member => fineBefore one (List.mem_cons_of_mem _ member), abortsFirst⟩

theorem appliedEach_eq_error_iff {kinds : List EntityKind} (distinct : kinds.Nodup)
    {error : Error} :
    (memory.appliedEach spec kinds).1 = .error error ↔ memory.AbortsFirst spec kinds error := by
  rw [← plannedEach_eq_error_iff]
  -- The dry run fails exactly if the run does, and with the same error.
  rcases foretold_of_distinct distinct memory spec with
    ⟨given, planned, ran⟩ | ⟨plans, reports, planned, ran, _⟩
  · simp [planned, ran]
  · simp [planned, ran]

/-- All plans of a run account for what differs in their kinds. -/
theorem accounts_of_plannedEach {kinds : List EntityKind} {plans : List PlanReport}
    (planned : memory.plannedEach spec kinds = .ok plans) :
    ∀ plan ∈ plans, memory.Accounts spec plan.kind plan.skipped plan.operations := by
  -- By induction on the kinds: the first one has the report in front, if it has any.
  induction kinds generalizing plans with
  | nil =>
    cases planned
    simp
  | cons kind rest ih =>
    rw [plannedEach] at planned
    cases prepared : memory.prepared spec kind with
    | error error => simp [prepared, bind, Except.bind] at planned
    | ok found =>
      cases plannedRest : memory.plannedEach spec rest with
      | error error => simp [prepared, plannedRest, bind, Except.bind] at planned
      | ok others =>
        rw [prepared, plannedRest] at planned
        cases planned
        intro plan member
        rcases List.mem_append.mp member with own | other
        · obtain ⟨preparation, rfl, rfl⟩ : ∃ preparation, found = some preparation ∧
              preparation.planned = plan := by simpa using own
          have isKind : preparation.planned.kind = kind := (groups_of_prepared prepared).1
          rw [isKind]
          exact accounts_of_prepared prepared
        · exact ih plannedRest plan other

end Memory

/-! ### The entry points -/

/-- Planning and reconciling one kind or all kinds end with an error exactly if a section that is
present cannot be fetched or has a change of an entity without a name. Otherwise every entity of
the kinds that has changes is planned, or is skipped with its reason. -/
theorem aborts_iff_unfetched_or_nameless (memory : Memory) (spec : Spec) :
    (∀ kind error,
      ((Memory.run (Memory.platform.plan spec kind) memory).1 = .error error ↔
        memory.Aborts spec kind error) ∧
      ((Memory.run (Memory.platform.apply spec kind) memory).1 = .error error ↔
        memory.Aborts spec kind error)) ∧
    (∀ error,
      ((Memory.run (Memory.platform.planAll spec) memory).1 = .error error ↔
        memory.AbortsFirst spec EntityKind.applyOrder error) ∧
      ((Memory.run (Memory.platform.applyAll spec) memory).1 = .error error ↔
        memory.AbortsFirst spec EntityKind.applyOrder error)) ∧
    (∀ kind plan, (Memory.run (Memory.platform.plan spec kind) memory).1 = .ok (some plan) →
      memory.Accounts spec kind plan.skipped plan.operations) ∧
    (∀ kind report, (Memory.run (Memory.platform.apply spec kind) memory).1 = .ok (some report) →
      memory.Accounts spec kind report.skipped (report.outcomes.map Outcome.operation)) ∧
    (∀ plans, (Memory.run (Memory.platform.planAll spec) memory).1 = .ok plans →
      ∀ plan ∈ plans, memory.Accounts spec plan.kind plan.skipped plan.operations) ∧
    ∀ reports, (Memory.run (Memory.platform.applyAll spec) memory).1 = .ok reports →
      ∀ report ∈ reports, memory.Accounts spec report.kind report.skipped
        (report.outcomes.map Outcome.operation) := by
  -- What runs is first read as what it comes to on the memory, kind by kind.
  simp only [Memory.run_plan, Memory.run_apply, Memory.run_planAll, Memory.run_applyAll]
  refine ⟨?_, ?_, ?_, ?_, ?_, ?_⟩
  · intro kind error
    exact ⟨Memory.map_eq_error_iff.trans Memory.prepared_eq_error_iff,
      Memory.applied_eq_error_iff⟩
  · intro error
    exact ⟨Memory.plannedEach_eq_error_iff, Memory.appliedEach_eq_error_iff (by decide)⟩
  · intro kind plan planned
    obtain ⟨preparation, prepared, rfl⟩ := Memory.planned_eq_some_iff.mp planned
    exact Memory.accounts_of_prepared prepared
  · intro kind report reported
    obtain ⟨preparation, prepared, rfl, _⟩ := Memory.applied_eq_some_iff.mp (Prod.ext reported rfl)
    have accounts := Memory.accounts_of_prepared prepared
    rwa [(memory.planned_foretells preparation).skipped,
      (memory.planned_foretells preparation).operations] at accounts
  · intro plans planned
    exact Memory.accounts_of_plannedEach planned
  · intro reports reported
    have distinct : EntityKind.applyOrder.Nodup := by decide
    -- A run that reports was foretold by a plan, which accounts for the same entities.
    rcases Memory.foretold_of_distinct distinct memory spec with
      ⟨error, _, failed⟩ | ⟨plans, others, planned, ran, agree, _⟩
    · rw [failed] at reported
      cases reported
    · rw [ran] at reported
      cases reported
      exact Memory.accounts_of_foretells agree (Memory.accounts_of_plannedEach planned)

/-- An application without a name keeps the other one from being planned: every run ends with an
error, although nothing is set to fail. -/
theorem unnamed_application_aborts :
    let memory : Memory := {}
    let spec : Spec := { applications := some (.ofList [("", {}), ("web", {})]) }
    let error : Error :=
      .plan (.precondition "change path 'applications/' does not name an entity")
    (∀ kind, memory.fails (Memory.fetchName kind) "" = false) ∧
      (Memory.run (Memory.platform.plan spec .applications) memory).1 = .error error ∧
      (Memory.run (Memory.platform.apply spec .applications) memory).1 = .error error ∧
      (Memory.run (Memory.platform.planAll spec) memory).1 = .error error ∧
      (Memory.run (Memory.platform.applyAll spec) memory).1 = .error error := by
  intro memory spec error
  refine ⟨?_, ?_, ?_, ?_, ?_⟩
  · intro kind
    rfl
  · decide +kernel
  · decide +kernel
  · decide +kernel
  · decide +kernel

end CloudSpace
