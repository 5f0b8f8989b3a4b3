import CloudSpace.Grouping
import CloudSpace.Plan.Entity
import CloudSpace.Platform.Basic

/-!
# Batches

The calls for all entities of one kind, and their outcomes. An entity whose changes cannot be
planned is skipped, and a call that fails is recorded; neither keeps the others from being made.
-/
namespace CloudSpace

/-- An entity without a plan. -/
structure Skipped where
  /-- The name of the entity, empty for the developers. -/
  entity : String
  reason : String
deriving DecidableEq, Repr

/-- The calls for the entities of one kind. -/
structure Batch where
  calls : List Call := []
  /-- How many entities have a plan. -/
  entitiesPlanned : Nat := 0
  skipped : List Skipped := []
  warnings : List String := []

namespace Batch

/-- A batch with the plan of one more entity. -/
def add (batch : Batch) (entity : String) (plan : Plan.EntityPlan) : Batch :=
  match plan.calls with
  | .ok calls =>
    { batch with
      calls := batch.calls ++ calls
      entitiesPlanned := batch.entitiesPlanned + 1
      warnings := batch.warnings ++ plan.warnings }
  | .error error =>
    { batch with
      skipped := batch.skipped ++ [⟨entity, error.message⟩]
      warnings := batch.warnings ++ plan.warnings ++ [s!"Skipping '{entity}': {error.message}"] }

/-- The changes of each entity of a kind. -/
def groupsOf (kind : EntityKind) (groups : ChangeGroups) : List (String × List Change) :=
  match kind with
  | .applications => groups.applications.entries
  | .services => groups.services.entries
  | .developers => groups.developers.toList.map fun change => ("", [change])

/-- The batch for all entities of a kind that have changes. -/
def of (kind : EntityKind) (groups : ChangeGroups) : Batch :=
  (groupsOf kind groups).foldl
    (fun batch group => batch.add group.1 (Plan.ofKind kind group.1 group.2)) {}

end Batch

/-- What became of one call. -/
structure Outcome where
  operation : PlannedOperation
  error : Option String := none
deriving DecidableEq, Repr

namespace Outcome

def isSuccess (outcome : Outcome) : Bool := outcome.error.isNone

def failedCount (outcomes : List Outcome) : Nat := outcomes.countP (!·.isSuccess)

def succeededCount (outcomes : List Outcome) : Nat := outcomes.countP (·.isSuccess)

def toValue (outcome : Outcome) : Value :=
  .record (outcome.operation.fields ++ Value.fieldOfText? "error" outcome.error)

/-- The warning about a call that failed. -/
def warning? (outcome : Outcome) : Option String :=
  outcome.error.map fun error => s!"{outcome.operation.text}: {error}"

end Outcome

section

variable {m : Type → Type} [Monad m]

/-- Make one call and note what became of it. -/
def Platform.try (platform : Platform m) (call : Call) : Task m Outcome := do
  match ← (platform.perform call).attempt with
  | .ok _ => return { operation := call.planned }
  | .error error =>
    let wrapped := Error.apply call.kind call.entity error
    return { operation := call.planned, error := some wrapped.message }

/-- Make every call of a list, and warn of those that failed. -/
def Platform.execute (platform : Platform m) (calls : List Call) : Task m (List Outcome) := do
  let outcomes ← calls.mapM platform.try
  Task.warn (outcomes.filterMap Outcome.warning?)
  return outcomes

end

end CloudSpace
