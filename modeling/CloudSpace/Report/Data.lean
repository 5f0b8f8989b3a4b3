import CloudSpace.Change.Encoding
import CloudSpace.Reconcile
import CloudSpace.Report.Moment
import CloudSpace.Text.Bytes
import CloudSpace.Validation

/-!
# Reports as data

What the commands have to say, for other programs to read. A run is named by sixteen random
bytes, six bits of which tell that they are random.
-/
namespace CloudSpace

namespace Report

/-! ### Names of runs -/

/-- Bytes with the two marks of a random name. -/
def markedRandom (bytes : List UInt8) : List UInt8 :=
  bytes.zipIdx.map fun (byte, index) =>
    if index = 6 then byte &&& 0x0F ||| 0x40
    else if index = 8 then byte &&& 0x3F ||| 0x80
    else byte

/-- The name that sixteen bytes make, in five groups of digits. -/
def runName (bytes : List UInt8) : String :=
  let marked := markedRandom bytes
  let group (start length : Nat) : String := Text.hexText ((marked.drop start).take length)
  "-".intercalate [group 0 4, group 4 2, group 6 2, group 8 2, group 10 6]

end Report

/-! ### Runs and plans -/

/-- What reconciling one kind did, and when. -/
structure Run where
  report : RunReport
  /-- The name of the run. -/
  id : String
  started : Report.Moment
  finished : Report.Moment
deriving DecidableEq, Repr

def Skipped.toValue (skipped : Skipped) : Value :=
  .record [("entity", .text skipped.entity), ("reason", .text skipped.reason)]

def PlanReport.toValue (report : PlanReport) : Value :=
  .record [("kind", .text report.kind.sectionName), ("fingerprint", .text report.fingerprint),
    ("operations", .list (report.operations.map PlannedOperation.toValue)),
    ("skipped", .list (report.skipped.map Skipped.toValue))]

def Run.toValue (run : Run) : Value :=
  .record [("kind", .text run.report.kind.sectionName),
    ("fingerprint", .text run.report.fingerprint), ("changes", .ofNat run.report.changes),
    ("entitiesPlanned", .ofNat run.report.entitiesPlanned),
    ("skipped", .list (run.report.skipped.map Skipped.toValue)),
    ("batch", .record [("runId", .text run.id), ("startedAt", .text run.started.text),
      ("finishedAt", .text run.finished.text),
      ("outcomes", .list (run.report.outcomes.map Outcome.toValue))])]

/-! ### Reports -/

namespace Report

/-- What validating a document found. -/
def validationValue (document : Document) : Value :=
  .record [("errors", Value.ofTextList (document.problems.map Problem.text)),
    ("valid", .bool document.problems.isEmpty),
    ("warnings", Value.ofTextList (document.cautions.map Caution.text))]

/-- The changes of several kinds. -/
def changesValue (changes : List (EntityKind × List Change)) : Value :=
  .list (changes.map fun (kind, changes) =>
    .record [("kind", .text kind.sectionName), ("changes", .list (changes.map Change.toValue))])

end Report

end CloudSpace
