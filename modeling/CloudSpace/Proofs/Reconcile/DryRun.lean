import CloudSpace.Proofs.Reconcile.Preparation
import Mathlib.Data.List.Forall2

/-!
# The dry run foretells the run

A dry run prepares every kind from one space, while a run prepares each kind from the space that
the kinds before it have left. Since the calls of a kind leave the other sections alone, both
prepare the same, and since an operation tells what its call will be recorded as, the reports of
the dry run tell the log of the run.
-/
namespace CloudSpace

/-! ### What an operation tells of its call -/

/-- The name in logs of the call that an operation stands for. -/
def Operation.callName : Operation → String
  | createApplication => "create_application"
  | deleteApplication => "delete_application"
  | renameApplication _ => "rename_application"
  | scaleApplication _ => "scale_application"
  | setHealthCheck .. => "set_health_check"
  | addEnvironmentVariable _ => "add_environment_variable"
  | removeEnvironmentVariable _ => "remove_environment_variable"
  | bindService _ => "bind_service"
  | unbindService _ => "unbind_service"
  | createService .. => "create_service"
  | deleteService => "delete_service"
  | grantDeveloper _ => "grant_space_developer"
  | revokeDeveloper _ => "revoke_space_developer"

/-- What the call of a planned operation is recorded as: with the user whose role it changes, or
else with the entity. -/
def PlannedOperation.recorded (planned : PlannedOperation) : RecordedCall :=
  match planned.operation with
  | .grantDeveloper user => ⟨planned.operation.callName, user⟩
  | .revokeDeveloper user => ⟨planned.operation.callName, user⟩
  | operation => ⟨operation.callName, planned.entity⟩

/-- What a plan shows of a call is enough to tell how it is recorded. -/
theorem recorded_planned (call : Call) : call.planned.recorded = call.recorded := by
  cases call <;> rfl

/-! ### Reports that correspond -/

/-- A report on what would be done agrees with one on what was done. -/
structure PlanReport.Foretells (plan : PlanReport) (report : RunReport) : Prop where
  kind : plan.kind = report.kind
  fingerprint : plan.fingerprint = report.fingerprint
  skipped : plan.skipped = report.skipped
  operations : plan.operations = report.outcomes.map Outcome.operation

namespace Memory

/-- The calls that reports of a dry run foretell. -/
def foretold (plans : List PlanReport) : List RecordedCall :=
  (plans.flatMap (·.operations)).map PlannedOperation.recorded

theorem planned_foretells (memory : Memory) (preparation : Preparation) :
    preparation.planned.Foretells (memory.report preparation) :=
  ⟨rfl, rfl, rfl, (operations_outcomes memory _).symm⟩

/-- What is prepared foretells the report on it, if its section is present, and its calls. -/
theorem foretells_report (memory : Memory) (found : Option Preparation) :
    List.Forall₂ PlanReport.Foretells (found.map Preparation.planned).toList
        (found.map memory.report).toList ∧
      (memory.made ((found.map (·.batch.calls)).getD [])).calls =
        memory.calls ++ foretold (found.map Preparation.planned).toList := by
  cases found with
  | none => exact ⟨.nil, (List.append_nil _).symm⟩
  | some preparation =>
    have recorded : foretold [preparation.planned] =
        preparation.batch.calls.map Call.recorded := by
      rw [foretold, List.flatMap_singleton, Preparation.planned, List.map_map]
      exact List.map_congr_left fun call _ => recorded_planned call
    refine ⟨.cons (planned_foretells memory preparation) .nil, ?_⟩
    exact (made_calls memory _).trans (congrArg _ recorded.symm)

theorem foretold_append (first second : List PlanReport) :
    foretold (first ++ second) = foretold first ++ foretold second := by
  simp [foretold]

/-! ### Several kinds -/

theorem plannedEach_congr {memory other : Memory} {spec : Spec} {kinds : List EntityKind}
    (same : ∀ kind ∈ kinds, memory.prepared spec kind = other.prepared spec kind) :
    memory.plannedEach spec kinds = other.plannedEach spec kinds := by
  induction kinds with
  | nil => rfl
  | cons kind rest ih =>
    rw [plannedEach, plannedEach, same kind List.mem_cons_self,
      ih fun later member => same later (List.mem_cons_of_mem _ member)]

/-- Reconciling a kind does not change what is prepared for the kinds after it. -/
theorem plannedEach_applied (memory : Memory) (spec : Spec) {kind : EntityKind}
    {rest : List EntityKind} (distinct : kind ∉ rest) :
    (memory.applied spec kind).2.plannedEach spec rest = memory.plannedEach spec rest := by
  apply plannedEach_congr
  intro later member
  apply prepared_congr
  · apply restrict_applied
    rintro rfl
    exact distinct member
  · exact failures_applied memory spec kind

/-- What a run over some kinds has to do with a dry run over them. -/
def Foretold (memory : Memory) (spec : Spec) (kinds : List EntityKind) : Prop :=
  (∃ error, memory.plannedEach spec kinds = .error error ∧
    (memory.appliedEach spec kinds).1 = .error error) ∨
  ∃ plans reports, memory.plannedEach spec kinds = .ok plans ∧
    (memory.appliedEach spec kinds).1 = .ok reports ∧
    List.Forall₂ PlanReport.Foretells plans reports ∧
    (memory.appliedEach spec kinds).2.calls = memory.calls ++ foretold plans

theorem foretold_of_distinct {kinds : List EntityKind} (distinct : kinds.Nodup)
    (memory : Memory) (spec : Spec) : memory.Foretold spec kinds := by
  induction kinds generalizing memory with
  | nil => exact .inr ⟨[], [], rfl, rfl, .nil, by simp [foretold, appliedEach]⟩
  -- The kinds that follow are planned on the memory as it was, but run on the one that is left,
  -- which is the same to them.
  | cons kind rest ih =>
    obtain ⟨fresh, distinctRest⟩ := List.nodup_cons.mp distinct
    have frame := plannedEach_applied memory spec fresh
    have tail := ih distinctRest (memory.applied spec kind).2
    rw [Foretold, frame] at tail
    rw [Foretold, plannedEach, appliedEach]
    cases prepared : memory.prepared spec kind with
    | error error => exact .inl ⟨error, rfl, by simp [applied, prepared]⟩
    | ok found =>
      have applied := applied_of_prepared prepared
      -- Whether its section is absent or present, the kind adds its own report and its calls to
      -- what the kinds after it add.
      obtain ⟨foretells, calls⟩ := memory.foretells_report found
      rw [applied] at tail ⊢
      rcases tail with ⟨error, planned, failed⟩ | ⟨plans, reports, planned, ran, agree, log⟩
      · refine .inl ⟨error, by rw [planned]; rfl, ?_⟩
        simp only [failed, Except.map]
      · refine .inr ⟨(found.map Preparation.planned).toList ++ plans,
          (found.map memory.report).toList ++ reports, by rw [planned]; rfl, ?_,
          List.rel_append foretells agree, ?_⟩
        · simp only [ran, Except.map]
        · simp only [log, calls, foretold_append, List.append_assoc]

end Memory

/-- A dry run leaves the platform as it is. It fails exactly if the run does, with the same
error, and otherwise its reports agree with those of the run one by one, and the run records the
calls of its operations and no others. -/
theorem planAll_foretells_applyAll (memory : Memory) (spec : Spec) :
    let planned := Memory.run (Memory.platform.planAll spec) memory
    let applied := Memory.run (Memory.platform.applyAll spec) memory
    planned.2 = memory ∧
      ((∃ error, planned.1 = .error error ∧ applied.1 = .error error) ∨
        ∃ plans reports, planned.1 = .ok plans ∧ applied.1 = .ok reports ∧
          List.Forall₂ PlanReport.Foretells plans reports ∧
          applied.2.calls = memory.calls ++
            (plans.flatMap (·.operations)).map PlannedOperation.recorded) := by
  intro planned applied
  -- Both runs are brought to what they come to on the memory, where the kinds are compared.
  have isPlanned : planned = (memory.plannedEach spec EntityKind.applyOrder, memory) :=
    Memory.run_planAll memory spec
  have isApplied : applied = memory.appliedEach spec EntityKind.applyOrder :=
    Memory.run_applyAll memory spec
  rw [isPlanned, isApplied]
  exact ⟨rfl, Memory.foretold_of_distinct (by decide) memory spec⟩

end CloudSpace
