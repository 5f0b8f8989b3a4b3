import CloudSpace.Record.Document
import CloudSpace.Report.Text

/-!
# Formats

Every report is written for people or for programs, as is asked for.
-/
namespace CloudSpace

inductive Format
  | text | json
deriving DecidableEq, Repr, Inhabited

/-- How reports are written. -/
structure Writer where
  format : Format
  colored : Bool

namespace Writer

/-- One report in the format that is asked for. -/
def write (writer : Writer) (text : Bool → String) (value : Value) : String :=
  match writer.format with
  | .text => text writer.colored
  | .json => Json.pretty value

def validation (writer : Writer) (document : Document) (showCautions : Bool) : String :=
  writer.write (fun colored => Report.validationText colored document showCautions)
    (Report.validationValue document)

def changes (writer : Writer) (changes : List (EntityKind × List Change)) : String :=
  writer.write (fun colored => Report.changesText colored changes) (Report.changesValue changes)

def plans (writer : Writer) (plans : List PlanReport) : String :=
  writer.write (fun colored => Report.plansText colored plans)
    (.list (plans.map PlanReport.toValue))

def runs (writer : Writer) (runs : List Run) : String :=
  writer.write (fun colored => Report.runsText colored runs) (.list (runs.map Run.toValue))

def document (writer : Writer) (document : Document) : String :=
  writer.write (fun _ => document.toYaml) document.toValue

end Writer

end CloudSpace
