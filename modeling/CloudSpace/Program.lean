import CloudSpace.Cloud.Space
import CloudSpace.Dotenv
import CloudSpace.Text.Character
import CloudSpace.Usage

/-!
# The program

Every command starts from a document that is loaded with the variables around it. All but
validation need it to be free of problems, and then a platform to be reached. Only applying a
plan makes calls, and it asks before unless that is approved in advance. What the program finds
around it is a host.
-/
namespace CloudSpace

/-- What there is around the program: variables, files, a platform to send requests to, a clock,
and somebody to write to and to ask. -/
structure Host (m : Type → Type) where
  /-- The variables that are set at the start. -/
  environment : Environment
  /-- Whether results go to a terminal. -/
  terminal : Bool
  /-- What a path leads to, if it leads anywhere. -/
  entryAt? : String → m (Option Entry)
  transport : Cloud.Transport m
  now : m Report.Moment
  /-- A name that nothing else has. -/
  newName : m String
  /-- Write where results go. -/
  print : String → m Unit
  /-- Write where everything else goes. -/
  tell : String → m Unit
  /-- Keep a warning. -/
  log : String → m Unit
  /-- The line that is typed next, unless it is no text. -/
  ask : m (Option String)

/-- The kinds that a command is about, in the order in which they are reconciled. -/
def selectedKinds : Option EntityKind → List EntityKind
  | some kind => [kind]
  | none => EntityKind.applyOrder

/-- A document as it counts, with the variables that are set once it is loaded. -/
structure Loaded where
  document : Document
  environment : Environment

namespace Host

variable {m : Type → Type} [Monad m]

/-! ### Loading -/

/-- Find the path of the document. -/
def locate (host : Host m) : Option String → Task m String
  | some path => return path
  | none => do
    -- Anything at a path counts as found, whatever it is.
    let found ← Task.act ((Document.candidates ".").findM? fun path => do
      return (← host.entryAt? path).isSome)
    Document.found "." found

/-- Load the document, after the file of variables beside it. -/
def load (host : Host m) (config : Option String) : Task m Loaded := do
  let path ← host.locate config
  -- A path that is only a name lies in the current directory.
  let beside := Dotenv.pathIn (some ((FilePath.parent? path).getD "."))
  let (environment, failure) :=
    Dotenv.ofEntry host.environment beside (← Task.act (host.entryAt? beside))
  match failure with
  | some error => throw error
  | none =>
    let document ← Document.ofEntry path (← Task.act (host.entryAt? path))
    return { document := document.override environment, environment }

/-- Reach the platform of a document's target, if the document has no problems. -/
def reach (host : Host m) (loaded : Loaded) : Task m (Platform m) := do
  -- Nothing is sent for a document that has problems.
  let _ ← loaded.document.validate
  match loaded.document.target with
  | none => throw (.config .missingTarget)
  | some target =>
    let token ← loaded.environment.accessToken
    return (← Cloud.connect host.transport loaded.environment target token).platform

/-- The way in which reports are written. -/
def writer (host : Host m) (format : Format) (loaded : Loaded) : Writer :=
  { format, colored := Report.isColored loaded.environment host.terminal }

/-- Print a report. -/
def report (host : Host m) (text : String) : Task m Unit := Task.act (host.print (text ++ "\n"))

/-! ### Commands -/

/-- Say what is wrong with the document; the first problem is the error. -/
def validate (host : Host m) (writer : Writer) (document : Document) (showCautions : Bool) :
    Task m Unit := do
  host.report (writer.validation document showCautions)
  let _ ← document.validate

/-- Show how the space differs from the document. -/
def diff (host : Host m) (writer : Writer) (platform : Platform m) (spec : Spec)
    (kinds : List EntityKind) : Task m Unit := do
  let changes ← kinds.mapM fun kind => do
    return (← platform.diff spec kind).map (kind, ·)
  host.report (writer.changes (changes.filterMap id))

/-- Show the calls that would be made. -/
def plan (host : Host m) (writer : Writer) (platform : Platform m) (spec : Spec)
    (kinds : List EntityKind) : Task m Unit := do
  host.report (writer.plans (← platform.planEach spec kinds))

def isYes (answer : String) : Bool :=
  let word := Text.trim answer
  word = "y" || word = "Y"

/-- Ask whether some plans are to be carried out, if there is anything in them. -/
def approve (host : Host m) (writer : Writer) (plans : List PlanReport) : Task m Bool := do
  if plans.all PlanReport.isEmpty then
    Task.act (host.tell "No changes to apply.\n")
    return false
  Task.act (host.tell (writer.plans plans ++ "\n"))
  Task.act (host.tell "Do you want to apply this plan? [y/N]: ")
  match ← Task.act host.ask with
  | none => throw (.inputOutput "stream did not contain valid UTF-8")
  | some answer =>
    if isYes answer then return true
    Task.act (host.tell "Apply cancelled.\n")
    return false

/-- Reconcile one kind, if its section is present. -/
def reconcile (host : Host m) (platform : Platform m) (spec : Spec) (kind : EntityKind) :
    Task m (Option Run) := do
  match ← platform.prepare spec kind with
  | none => return none
  | some preparation =>
    let id ← Task.act host.newName
    let started ← Task.act host.now
    let report ← platform.carryOut preparation
    return some { report, id, started, finished := ← Task.act host.now }

/-- Make the space what the document asks for. -/
def apply (host : Host m) (writer : Writer) (platform : Platform m) (spec : Spec)
    (kinds : List EntityKind) (approved : Bool) : Task m Unit := do
  -- Where approval is given beforehand, no plans are made to be shown.
  if ← if approved then pure true else host.approve writer (← platform.planEach spec kinds) then
    let runs ← kinds.mapM (host.reconcile platform spec)
    host.report (writer.runs (runs.filterMap id))

/-- Write down the space as it is. -/
def get (host : Host m) (writer : Writer) (platform : Platform m) (target : Option Target) :
    Task m Unit := do
  let live ← platform.fetchLive
  host.report (writer.document (Document.ofSpec (Spec.ofSpace live) target))

/-- Do what a command line asks for. -/
def perform (host : Host m) (invocation : Invocation) : Task m Unit := do
  let loaded ← host.load invocation.config
  let document := loaded.document
  let writer := host.writer invocation.format loaded
  match invocation.command with
  | .validate showCautions => host.validate writer document showCautions
  | .diff kind =>
    host.diff writer (← host.reach loaded) document.spec (selectedKinds kind)
  | .plan kind =>
    host.plan writer (← host.reach loaded) document.spec (selectedKinds kind)
  | .apply kind approved =>
    host.apply writer (← host.reach loaded) document.spec (selectedKinds kind) approved
  | .get => host.get writer (← host.reach loaded) document.target

/-! ### Runs -/

/-- Answer a command line that is not carried out. -/
def refuse (host : Host m) (refusal : Refusal) : m Unit :=
  if refusal.isAnswer then host.print refusal.text else host.tell refusal.text

/-- Carry out a command line, and give the status to exit with. -/
def run (host : Host m) (words : List String) : m Nat := do
  match CommandLine.read host.environment words with
  | .error refusal =>
    host.refuse refusal
    return refusal.status
  | .ok invocation =>
    let (result, warnings) ← (host.perform invocation).start
    warnings.forM host.log
    match result with
    | .ok _ => return 0
    | .error error =>
      host.tell s!"Error: {error.message}\n"
      return 1

end Host

end CloudSpace
