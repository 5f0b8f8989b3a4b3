import CloudSpace.Proofs.Plan.Section
import CloudSpace.Proofs.Reconcile.Trace

/-!
# Preparations

What is prepared for a kind depends on the live entities of that kind and on nothing else of the
space, and its calls are those between what is live and what is desired. Making them advances the
section by the calls that are accepted and leaves every other section alone.
-/
namespace CloudSpace

theorem Spec.eq_of_restrict? {spec : Spec} {kind : EntityKind} {desired : Space}
    (present : spec.restrict? kind = some desired) : desired = spec.toSpace.restrict kind := by
  cases kind <;> obtain ⟨value, given, rfl⟩ := Option.map_eq_some_iff.mp present <;>
    simp [Space.restrict, Spec.toSpace, given]

namespace Memory

variable {memory other : Memory} {spec : Spec} {kind : EntityKind} {preparation : Preparation}

/-! ### What is prepared -/

/-- Grouping for a present section compares what is fetched with what is desired of the kind. -/
theorem grouped_eq (memory : Memory) {desired : Space}
    (present : spec.restrict? kind = some desired) :
    memory.grouped kind desired =
      if memory.fails (fetchName kind) "" then .error (.fetch kind (injected (fetchName kind) ""))
      else ChangeGroups.build ((memory.space.restrict kind).diff (spec.toSpace.restrict kind)) := by
  rw [grouped, fetched, Spec.eq_of_restrict? present]
  cases memory.fails (fetchName kind) "" <;> rfl

/-- What is prepared for a kind only depends on the entities of the kind and on whether they can
be fetched. -/
theorem prepared_congr_of_fails (section? : memory.space.restrict kind = other.space.restrict kind)
    (fetches : memory.fails (fetchName kind) "" = other.fails (fetchName kind) "") :
    memory.prepared spec kind = other.prepared spec kind := by
  rw [prepared, prepared]
  cases present : spec.restrict? kind with
  | none => rfl
  | some desired =>
    dsimp only
    rw [grouped_eq memory present, grouped_eq other present, section?, fetches]

theorem prepared_congr (section? : memory.space.restrict kind = other.space.restrict kind)
    (failures : memory.failures = other.failures) :
    memory.prepared spec kind = other.prepared spec kind :=
  prepared_congr_of_fails section? (by rw [fails, fails, failures])

theorem eq_none_of_prepared {found : Option Preparation}
    (prepared : memory.prepared spec kind = .ok found) :
    found = none ↔ spec.restrict? kind = none := by
  -- With a section the result is a preparation or an error, and an error is excluded.
  rw [Memory.prepared] at prepared
  cases present : spec.restrict? kind with
  | none =>
    rw [present] at prepared
    cases prepared
    simp
  | some desired =>
    simp only [present] at prepared
    cases grouped : memory.grouped kind desired with
    | error error => simp [grouped, Except.map] at prepared
    | ok groups =>
      rw [grouped] at prepared
      cases prepared
      simp

/-- A preparation is made of the groups of a section that was fetched. -/
theorem groups_of_prepared (prepared : memory.prepared spec kind = .ok (some preparation)) :
    preparation.kind = kind ∧ memory.fails (fetchName kind) "" = false ∧
      ∃ groups, ChangeGroups.build
          ((memory.space.restrict kind).diff (spec.toSpace.restrict kind)) = .ok groups ∧
        preparation.batch = Batch.of kind groups := by
  -- Of the ways to prepare a kind only the last one gives something.
  rw [Memory.prepared] at prepared
  cases present : spec.restrict? kind with
  | none => simp [present] at prepared
  | some desired =>
    simp only [present, grouped_eq memory present] at prepared
    split at prepared
    next => cases prepared
    next fetches =>
      cases built : ChangeGroups.build
          ((memory.space.restrict kind).diff (spec.toSpace.restrict kind)) with
      | error _ => simp [built, Except.map] at prepared
      | ok groups =>
        rw [built] at prepared
        cases prepared
        exact ⟨rfl, by simpa using fetches, groups, rfl, rfl⟩

/-- A preparation plans the calls between what is live and what is desired. -/
theorem calls_of_prepared (prepared : memory.prepared spec kind = .ok (some preparation)) :
    preparation.kind = kind ∧
      preparation.batch.calls = Plan.calls kind memory.space spec.toSpace ∧
      preparation.batch.skipped = Plan.skips kind memory.space spec.toSpace := by
  obtain ⟨isKind, _, groups, built, isBatch⟩ := groups_of_prepared prepared
  rw [isBatch]
  exact ⟨isKind, Batch.of_build built⟩

/-- A preparation is possible where the fetch does not fail and no name is empty. -/
theorem exists_prepared {desired : Space} (present : spec.restrict? kind = some desired)
    (fetches : memory.fails (fetchName kind) "" = false) (named : memory.space.Named kind)
    (namedDesired : desired.Named kind) :
    ∃ preparation, memory.prepared spec kind = .ok (some preparation) := by
  obtain ⟨groups, built⟩ := ChangeGroups.exists_build_diff named namedDesired
  -- A present section is read as a space with nothing else in it.
  have own : desired.restrict kind = spec.toSpace.restrict kind := by
    rw [Spec.eq_of_restrict? present]
    cases kind <;> rfl
  rw [own] at built
  simp [prepared, present, grouped_eq memory present, fetches, built, Except.map]

/-! ### Making the calls -/

theorem separate_of_prepared (prepared : memory.prepared spec kind = .ok (some preparation)) :
    Separate kind preparation.batch.calls := by
  rw [(calls_of_prepared prepared).2.1]
  exact Plan.separate_calls kind _ _

/-- The calls of a kind that are accepted advance its section. -/
theorem made_space_of_prepared (prepared : memory.prepared spec kind = .ok (some preparation)) :
    (memory.made preparation.batch.calls).space =
      Plan.advance memory.accepts memory.space spec.toSpace kind := by
  obtain ⟨_, calls, _⟩ := calls_of_prepared prepared
  rw [calls, made_space_of_separate (Plan.separate_calls kind _ _), Plan.advance]

/-- No call of a kind has a say in what becomes of another. -/
theorem outcomes_of_prepared (prepared : memory.prepared spec kind = .ok (some preparation)) :
    memory.outcomes preparation.batch.calls =
      preparation.batch.calls.map memory.outcome :=
  outcomes_of_separate (separate_of_prepared prepared) memory

theorem kind_of_prepared (prepared : memory.prepared spec kind = .ok (some preparation)) :
    ∀ call ∈ preparation.batch.calls, call.kind = kind :=
  (separate_of_prepared prepared).kinds

/-! ### Frames -/

/-- Reconciling a kind leaves the other sections alone. -/
theorem restrict_applied (memory : Memory) (spec : Spec) {kind kind' : EntityKind}
    (distinct : kind ≠ kind') :
    (memory.applied spec kind).2.space.restrict kind' = memory.space.restrict kind' := by
  rw [applied]
  split
  next => rfl
  next => rfl
  next preparation prepared =>
    apply restrict_made
    intro call member
    rw [kind_of_prepared prepared call member]
    exact distinct

theorem failures_applied (memory : Memory) (spec : Spec) (kind : EntityKind) :
    (memory.applied spec kind).2.failures = memory.failures := by
  rw [applied]
  split
  next => rfl
  next => rfl
  next => exact made_failures _ _

theorem restrict_appliedEach {kinds : List EntityKind} (memory : Memory) (spec : Spec)
    (others : kind ∉ kinds) :
    (memory.appliedEach spec kinds).2.space.restrict kind = memory.space.restrict kind := by
  induction kinds generalizing memory with
  | nil => rfl
  | cons first rest ih =>
    have distinct : first ≠ kind := by
      rintro rfl
      exact others List.mem_cons_self
    -- The run may end with the first kind, but what it has done by then concerns that kind only.
    have head := restrict_applied memory spec distinct
    rw [appliedEach]
    cases applied : memory.applied spec first with
    | mk result after =>
      rw [applied] at head
      cases result with
      | error error => exact head
      | ok report => exact (ih after fun later => others (List.mem_cons_of_mem _ later)).trans head

/-! ### Runs that report -/

/-- The report on a preparation whose calls are made. -/
def report (memory : Memory) (preparation : Preparation) : RunReport :=
  preparation.ran (memory.outcomes preparation.batch.calls)

theorem applied_of_prepared {found : Option Preparation}
    (prepared : memory.prepared spec kind = .ok found) :
    memory.applied spec kind = (.ok (found.map memory.report),
      memory.made ((found.map (·.batch.calls)).getD [])) := by
  rw [applied, prepared]
  cases found <;> rfl

/-- A dry run that reports of a kind has prepared it. -/
theorem planned_eq_some_iff {plan : PlanReport} :
    (memory.prepared spec kind).map (Option.map Preparation.planned) = .ok (some plan) ↔
      ∃ preparation, memory.prepared spec kind = .ok (some preparation) ∧
        preparation.planned = plan := by
  cases memory.prepared spec kind with
  | error error => simp [Except.map]
  | ok found => simp [Except.map]

/-- A run that reports of a kind has prepared it and made its calls. -/
theorem applied_eq_some_iff {report : RunReport} {after : Memory} :
    memory.applied spec kind = (.ok (some report), after) ↔
      ∃ preparation, memory.prepared spec kind = .ok (some preparation) ∧
        memory.report preparation = report ∧ memory.made preparation.batch.calls = after := by
  cases prepared : memory.prepared spec kind with
  | error error => simp [applied, prepared]
  | ok found => cases found <;> simp [applied_of_prepared prepared]

/-- A run over several kinds that reports has prepared the first of them and reports of the
others. -/
theorem appliedEach_cons_eq_ok {rest : List EntityKind} {reports : List RunReport}
    (reported : (memory.appliedEach spec (kind :: rest)).1 = .ok reports) :
    ∃ found others, memory.prepared spec kind = .ok found ∧
      ((memory.applied spec kind).2.appliedEach spec rest).1 = .ok others ∧
      reports = (found.map memory.report).toList ++ others ∧
      (memory.appliedEach spec (kind :: rest)).2 =
        ((memory.applied spec kind).2.appliedEach spec rest).2 := by
  cases prepared : memory.prepared spec kind with
  | error error => simp [appliedEach, applied, prepared] at reported
  | ok found =>
    rw [appliedEach, applied_of_prepared prepared] at reported ⊢
    simp only at reported
    cases ran : ((memory.made ((found.map (·.batch.calls)).getD [])).appliedEach spec rest).1 with
    | error error => simp [ran, Except.map] at reported
    | ok others =>
      rw [ran] at reported
      exact ⟨found, others, rfl, rfl, (Except.ok.inj reported).symm, rfl⟩

end Memory

end CloudSpace
