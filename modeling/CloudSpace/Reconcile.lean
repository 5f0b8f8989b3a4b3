import CloudSpace.Diff
import CloudSpace.Fingerprint
import CloudSpace.Plan.Batch

/-!
# Reconciliation

Making a space what a spec asks for, one kind of entity after the other: fetch the live entities,
compare them with the desired ones, plan the changed ones, and make the calls. A kind whose
section is absent is left alone. Services come before applications, because what an application
is bound to has to exist.
-/
namespace CloudSpace

/-- The kinds in the order in which they are reconciled. -/
def EntityKind.applyOrder : List EntityKind := [.developers, .services, .applications]

/-- What reconciling one kind did. -/
structure RunReport where
  kind : EntityKind
  /-- Short fingerprint of the desired entities. -/
  fingerprint : String
  /-- How many changes there were. -/
  changes : Nat
  entitiesPlanned : Nat
  skipped : List Skipped
  outcomes : List Outcome
deriving DecidableEq, Repr

/-- Whether every call succeeded and nothing was skipped. -/
def RunReport.isConverged (report : RunReport) : Bool :=
  report.skipped.isEmpty && Outcome.failedCount report.outcomes == 0

/-- What reconciling one kind would do. -/
structure PlanReport where
  kind : EntityKind
  /-- Short fingerprint of the desired entities. -/
  fingerprint : String
  operations : List PlannedOperation
  skipped : List Skipped
deriving DecidableEq, Repr

/-- Whether there is nothing to do and nothing was skipped. -/
def PlanReport.isEmpty (report : PlanReport) : Bool :=
  report.operations.isEmpty && report.skipped.isEmpty

/-- What there is to do about one kind. -/
structure Preparation where
  kind : EntityKind
  /-- Short fingerprint of the desired entities. -/
  fingerprint : String
  /-- How many changes there are. -/
  changes : Nat
  batch : Batch

namespace Preparation

/-- The report on what is not done yet. -/
def planned (preparation : Preparation) : PlanReport :=
  { kind := preparation.kind
    fingerprint := preparation.fingerprint
    operations := preparation.batch.calls.map Call.planned
    skipped := preparation.batch.skipped }

/-- The report on what was done, from what became of each call. -/
def ran (preparation : Preparation) (outcomes : List Outcome) : RunReport :=
  { kind := preparation.kind
    fingerprint := preparation.fingerprint
    changes := preparation.changes
    entitiesPlanned := preparation.batch.entitiesPlanned
    skipped := preparation.batch.skipped
    outcomes }

end Preparation

namespace Platform

variable {m : Type → Type} [Monad m]

/-- Fetch the entities of one kind. -/
def fetch (platform : Platform m) (kind : EntityKind) : Task m Space :=
  Task.wrapError (.fetch kind) <|
    match kind with
    | .applications => return { applications := ← platform.applications }
    | .services => return { services := ← platform.services }
    | .developers => return { developers := ← platform.developers }

/-- Fetch the entities of every kind. -/
def fetchLive (platform : Platform m) : Task m Space := do
  let applications := (← platform.fetch .applications).applications
  let services := (← platform.fetch .services).services
  let developers := (← platform.fetch .developers).developers
  return { applications, services, developers }

/-- The changes of one kind, if its section is present. -/
def diff (platform : Platform m) (spec : Spec) (kind : EntityKind) :
    Task m (Option (List Change)) :=
  match spec.restrict? kind with
  | none => return none
  | some desired => return some ((← platform.fetch kind).diff desired)

/-- The changes of one kind, by entity. -/
def groups (platform : Platform m) (kind : EntityKind) (desired : Space) :
    Task m ChangeGroups := do
  match ChangeGroups.build ((← platform.fetch kind).diff desired) with
  | .ok groups => return groups
  | .error error => throw error

/-- Find out what there is to do about one kind, if its section is present. -/
def prepare (platform : Platform m) (spec : Spec) (kind : EntityKind) :
    Task m (Option Preparation) :=
  match spec.restrict? kind with
  | none => return none
  | some desired => do
    let groups ← platform.groups kind desired
    let batch := Batch.of kind groups
    Task.warn batch.warnings
    return some
      { kind, fingerprint := shortFingerprint desired.fingerprint, changes := groups.count, batch }

/-- Do what there is to do about one kind. -/
def carryOut (platform : Platform m) (preparation : Preparation) : Task m RunReport := do
  return preparation.ran (← platform.execute preparation.batch.calls)

/-- What would be done about one kind, if its section is present. -/
def plan (platform : Platform m) (spec : Spec) (kind : EntityKind) :
    Task m (Option PlanReport) := do
  return (← platform.prepare spec kind).map Preparation.planned

/-- Reconcile one kind, if its section is present. -/
def apply (platform : Platform m) (spec : Spec) (kind : EntityKind) :
    Task m (Option RunReport) := do
  match ← platform.prepare spec kind with
  | none => return none
  | some preparation => return some (← platform.carryOut preparation)

/-- What would be done about some kinds, where their sections are present. -/
def planEach (platform : Platform m) (spec : Spec) (kinds : List EntityKind) :
    Task m (List PlanReport) :=
  return (← kinds.mapM (platform.plan spec)).filterMap id

/-- What would be done about every kind whose section is present. -/
def planAll (platform : Platform m) (spec : Spec) : Task m (List PlanReport) :=
  platform.planEach spec EntityKind.applyOrder

/-- Reconcile every kind whose section is present, up to the first that cannot be fetched. -/
def applyAll (platform : Platform m) (spec : Spec) : Task m (List RunReport) :=
  return (← EntityKind.applyOrder.mapM (platform.apply spec)).filterMap id

end Platform

end CloudSpace
