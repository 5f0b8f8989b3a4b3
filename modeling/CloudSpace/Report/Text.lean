import CloudSpace.Report.Data
import CloudSpace.Report.Style
import CloudSpace.Report.Table

/-!
# Reports for people

What the commands have to say, in lines and tables. Where nothing is to be done, one line says
so.
-/
namespace CloudSpace.Report

/-- A line that begins with a mark in a colour. -/
def marked (colored : Bool) (style : Style) (mark text : String) : String :=
  paint colored style mark ++ " " ++ text ++ "\n"

/-- An entry of a list. -/
def bullet (text : String) : String := "   - " ++ text ++ "\n"

/-- How many entities a section has, if it is present. -/
def sectionSize (size : Option Nat) : String :=
  match size with
  | some size => toString size
  | none => "not managed"

/-! ### Validation -/

def summaryOf (spec : Spec) : String :=
  "\nConfiguration summary:\n" ++
  s!"   Space developers: {sectionSize (spec.developers.map List.length)}\n" ++
  s!"   Services: {sectionSize (spec.services.map NameMap.size)}\n" ++
  s!"   Applications: {sectionSize (spec.applications.map NameMap.size)}\n"

/-- What validating a document found; cautions are shown on request. -/
def validationText (colored : Bool) (document : Document) (showCautions : Bool) : String :=
  let problems := document.problems
  let cautions := document.cautions
  (if problems.isEmpty then marked colored .green "✓" "Configuration is valid!"
    else marked colored .red "✗" "Configuration is invalid:" ++
      String.join (problems.map fun problem => bullet problem.text)) ++
  (if showCautions && !cautions.isEmpty then
    "\n" ++ marked colored .yellow "⚠" "Warnings:" ++
      String.join (cautions.map fun caution => bullet caution.text)
    else "") ++
  summaryOf document.spec

/-! ### Changes -/

/-- The colour of a change. -/
def changeStyle (change : Change) : Style :=
  if change.isObjectAdded then .green else if change.isObjectRemoved then .red else .yellow

/-- The changes of one kind, under its name. -/
def kindText (colored : Bool) (kind : EntityKind) (changes : List Change) : String :=
  if changes.isEmpty then ""
  else
    s!"\n{paint colored .bold kind.sectionName} ({changes.length}):\n" ++
      String.join (changes.map fun change =>
        "   " ++ paint colored (changeStyle change) change.text ++ "\n")

/-- How many entities are concerned. -/
def summaryText (colored : Bool) (summary : ChangeSummary) : String :=
  s!"\nDiff: {paint colored .green (toString summary.creates)} to create, " ++
    s!"{paint colored .yellow (toString summary.updates)} to update, " ++
    s!"{paint colored .red (toString summary.deletes)} to delete\n"

/-- The changes of several kinds. -/
def changesText (colored : Bool) (changes : List (EntityKind × List Change)) : String :=
  if changes.all (·.2.isEmpty) then
    marked colored .green "✓" "No drift detected - space is converged."
  else
    String.join (changes.map fun (kind, changes) => kindText colored kind changes) ++
    match ChangeGroups.build (changes.flatMap (·.2)) with
    | .ok groups => summaryText colored groups.summary
    | .error _ => ""

/-! ### Plans -/

def skippedText (colored : Bool) (skipped : List Skipped) : String :=
  if skipped.isEmpty then ""
  else
    "\n" ++ marked colored .yellow "⚠" "Skipped entities:" ++
      String.join (skipped.map fun entry =>
        let name := if entry.entity.isEmpty then "space developers" else entry.entity
        bullet s!"{name}: {entry.reason}")

/-- A row for each operation, numbered from one. -/
def operationRows (operations : List PlannedOperation) : List (List String) :=
  operations.zipIdx.map fun (planned, index) =>
    [toString (index + 1), planned.kind.displayName, planned.entity, planned.operation.text]

def plansText (colored : Bool) (plans : List PlanReport) : String :=
  if plans.all PlanReport.isEmpty then
    marked colored .green "✓" "No changes required - space is up to date."
  else
    let operations := plans.flatMap (·.operations)
    "\nPlan\n" ++
    String.join (plans.map fun plan =>
      s!"   {plan.kind.sectionName} desired: {plan.fingerprint}\n") ++
    "\n" ++
    (if operations.isEmpty then ""
      else table ["#", "Kind", "Entity", "Call"] (operationRows operations) ++ "\n") ++
    skippedText colored (plans.flatMap (·.skipped)) ++
    s!"\nPlan: {paint colored .yellow (toString operations.length)} calls\n"

/-! ### Runs -/

/-- A count of something that should not be. -/
def badCount (colored : Bool) (count : Nat) : String :=
  if count = 0 then "0" else paint colored .red (toString count)

def runRow (colored : Bool) (run : Run) : List String :=
  let outcomes := run.report.outcomes
  [run.report.kind.sectionName, toString run.report.changes, toString outcomes.length,
    paint colored .green (toString (Outcome.succeededCount outcomes)),
    badCount colored (Outcome.failedCount outcomes),
    badCount colored run.report.skipped.length,
    s!"{run.finished.milliseconds - run.started.milliseconds}ms"]

/-- A call that failed, if this one did. -/
def failureText? (outcome : Outcome) : Option String :=
  outcome.error.map fun error => s!"{outcome.operation.text}: {error}"

def failuresText (colored : Bool) (outcomes : List Outcome) : String :=
  let failures := outcomes.filterMap failureText?
  if failures.isEmpty then ""
  else
    "\n" ++ marked colored .red "✗" "Failed calls:" ++ String.join (failures.map bullet)

def runsText (colored : Bool) (runs : List Run) : String :=
  if runs.isEmpty then "Nothing to reconcile.\n"
  else
    "\n" ++
    table ["Kind", "Changes", "Calls", "Succeeded", "Failed", "Skipped", "Duration"]
      (runs.map (runRow colored)) ++
    "\n" ++
    failuresText colored (runs.flatMap (·.report.outcomes)) ++
    skippedText colored (runs.flatMap (·.report.skipped)) ++
    "\n" ++
    (if runs.all (·.report.isConverged) then
      marked colored .green "✓" "Reconciliation successful"
    else marked colored .yellow "⚠" "Reconciliation finished with errors")

end CloudSpace.Report
