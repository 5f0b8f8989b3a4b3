import CloudSpace.Program
import CloudSpace.Proofs.Diff.Exact
import CloudSpace.Proofs.Reconcile.Preparation
import CloudSpace.Proofs.Record.RoundTrip

/-!
# Writing a space down

Nothing of a document is lost when it is encoded. The document that is written of a live space
therefore asks for exactly that space, and reconciling with it finds nothing to change.
-/
namespace CloudSpace

open Yaml (Node)

variable {memory : Memory} {spec : Spec} {kind : EntityKind}

/-! ### Spaces that are as desired -/

theorem Application.Agrees.refl (app : Application) : app.Agrees app :=
  ⟨rfl, rfl, rfl, fun _ => .rfl, fun _ => .rfl⟩

theorem Service.Agrees.refl (service : Service) : service.Agrees service :=
  ⟨rfl, fun _ => .rfl⟩

theorem Space.Agrees.refl (space : Space) : space.Agrees space where
  applications name := by
    cases space.applications.get? name with
    | none => exact .none
    | some app => exact .some (.refl app)
  services name := by
    cases space.services.get? name with
    | none => exact .none
    | some service => exact .some (.refl service)
  developers _ := .rfl

theorem Space.diff_self (space : Space) : space.diff space = [] :=
  diff_eq_nil_iff_agrees.mpr (.refl space)

/-- A spec leaves a platform as it is: there is no change of any kind, and a plan for all kinds
has neither a call nor an entity that is skipped. -/
structure Memory.Settled (memory : Memory) (spec : Spec) : Prop where
  unchanged : ∀ kind, run (platform.diff spec kind) memory = (.ok (some []), memory)
  idle : ∃ plans, run (platform.planAll spec) memory = (.ok plans, memory) ∧
    plans.map (·.kind) = EntityKind.applyOrder ∧
    ∀ plan ∈ plans, plan.operations = [] ∧ plan.skipped = []

namespace Memory

/-- A section that is as desired is prepared with nothing to do and nothing to skip. -/
theorem prepared_of_same {desired : Space} (fetches : memory.fails (fetchName kind) "" = false)
    (present : spec.restrict? kind = some desired)
    (same : memory.space.restrict kind = desired) :
    ∃ preparation, memory.prepared spec kind = .ok (some preparation) ∧
      preparation.kind = kind ∧ preparation.batch.calls = [] ∧
      preparation.batch.skipped = [] := by
  -- Nothing differs, so that there are no groups and no calls to plan.
  have grouped : memory.grouped kind desired = .ok {} := by
    rw [grouped, fetched, if_neg (by simp [fetches]), same]
    dsimp only
    rw [Space.diff_self]
    rfl
  simp only [prepared, present, grouped]
  exact ⟨_, rfl, rfl, by cases kind <;> rfl, by cases kind <;> rfl⟩

theorem plannedEach_of_idle {kinds : List EntityKind}
    (each : ∀ kind ∈ kinds, ∃ preparation, memory.prepared spec kind = .ok (some preparation) ∧
      preparation.kind = kind ∧ preparation.batch.calls = [] ∧ preparation.batch.skipped = []) :
    ∃ plans, memory.plannedEach spec kinds = .ok plans ∧ plans.map (·.kind) = kinds ∧
      ∀ plan ∈ plans, plan.operations = [] ∧ plan.skipped = [] := by
  -- By induction on the kinds: the first has an idle plan, and the others have theirs.
  induction kinds with
  | nil => exact ⟨[], rfl, rfl, List.forall_mem_nil _⟩
  | cons kind rest ih =>
    obtain ⟨preparation, prepared, isKind, calls, skipped⟩ := each kind List.mem_cons_self
    obtain ⟨plans, planned, kinds, idle⟩ :=
      ih fun other member => each other (List.mem_cons_of_mem _ member)
    have first : preparation.planned.operations = [] := by simp [Preparation.planned, calls]
    refine ⟨preparation.planned :: plans, ?_, ?_,
      List.forall_mem_cons.mpr ⟨⟨first, skipped⟩, idle⟩⟩
    · rw [plannedEach, prepared, planned]
      rfl
    · rw [List.map_cons, kinds, ← isKind]
      rfl

/-- A spec that describes the space of a platform leaves it as it is. -/
theorem settled_ofSpace (fetches : ∀ kind, memory.fails (fetchName kind) "" = false) :
    memory.Settled (.ofSpace memory.space) := by
  -- The spec that is made of a space has all three sections.
  have present (kind : EntityKind) :
      (Spec.ofSpace memory.space).restrict? kind = some (memory.space.restrict kind) := by
    cases kind <;> rfl
  constructor
  · intro kind
    have fetched : memory.fetched kind = .ok (memory.space.restrict kind) := by
      rw [fetched, if_neg (by simp [fetches kind])]
    rw [run_diff, compared, present kind]
    simp only [fetched, Except.map, Space.diff_self]
  · rw [run_planAll]
    obtain ⟨plans, planned, kinds, idle⟩ :=
      plannedEach_of_idle fun kind _ => prepared_of_same (fetches kind) (present kind) rfl
    exact ⟨plans, by rw [planned], kinds, idle⟩

/-- What is written of the space of a platform is the document that describes it. -/
theorem run_get (fetches : ∀ kind, memory.fails (fetchName kind) "" = false)
    (host : Host (StateM Memory)) (writer : Writer) (target : Option Target) :
    run (host.get writer platform target) memory =
      run (host.report (writer.document (.ofSpec (.ofSpace memory.space) target))) memory := by
  have fetched : memory.fetchedLive = .ok memory.space := by
    simp only [fetchedLive, fetched, fetches, Bool.false_eq_true, ↓reduceIte]
    rfl
  have written (text : String) : Yields (host.report text) memory (.ok ())
      ((host.print (text ++ "\n")).run memory).2 := fun warnings => ⟨warnings, rfl⟩
  have fetching := yields_fetchLive memory
  rw [fetched] at fetching
  rw [(written _).run_eq]
  exact (fetching.bind (written _)).run_eq

end Memory

/-- Documents survive being encoded, and so what is written of a live space, read back as what is
desired, leaves the space as it is. -/
theorem document_survives_encoding :
    (∀ (document : Document) (node : Node), document.toValue.Keeps node →
      Document.ofNode node = .ok document) ∧
    (∀ document : Document, Document.ofValue document.toValue = .ok document) ∧
    ∀ memory : Memory, (∀ kind, memory.fails (Memory.fetchName kind) "" = false) →
      ∀ target : Option Target,
      let written := Document.ofSpec (Spec.ofSpace memory.space) target
      (∀ (host : Host (StateM Memory)) (writer : Writer),
        Memory.run (host.get writer Memory.platform target) memory =
          Memory.run (host.report (writer.document written)) memory) ∧
      ∀ node : Node, written.toValue.Keeps node →
        ∃ desired, Document.ofNode node = .ok desired ∧ memory.Settled desired.spec := by
  refine ⟨fun _ _ => Document.ofNode_of_keeps, fun document => ?_, ?_⟩
  · exact Document.ofNode_of_keeps (.data document.toValue)
  · intro memory fetches target written
    refine ⟨fun host writer => Memory.run_get fetches host writer target, fun node keeps => ?_⟩
    exact ⟨written, Document.ofNode_of_keeps keeps, Memory.settled_ofSpace fetches⟩

/-! ### A document with quotes -/

namespace QuotedDocument

def app : Application := {
  path := some "null"
  manifest := {
    command := some "true"
    environmentVariables := .ofList [("PORT", "8080")]
    instances := some 2
    noRoute := some true } }

/-- One section is empty and another is absent. -/
def document : Document := {
  apiVersion := some "1.0"
  spec := { developers := some [], applications := some (.ofList [("web", app)]) } }

def plain (content : String) : Node := .written content .plain none

def quoted (content : String) : Node := .written content .quoted none

def manifestNode : Node := .record [
  (plain "command", quoted "true"),
  (plain "environmentVariables", .record [(plain "PORT", quoted "8080")]),
  (plain "instances", plain "2"),
  (plain "noRoute", plain "true")]

def appsNode : Node := .record [
  (plain "web", .record [(plain "path", quoted "null"), (plain "manifest", manifestNode)])]

/-- The document as somebody writes it: a text that looks like something else has quotes. -/
def node : Node := .record [
  (plain "apiVersion", quoted "1.0"),
  (plain "spec", .record [(plain "spaceDevelopers", .list []), (plain "apps", appsNode)])]

theorem keeps_word {content : String} (untyped : Yaml.Plain.resolve content = .text) :
    (Value.text content).Keeps (plain content) := .text fun _ => untyped

theorem keeps_quoted (content : String) : (Value.text content).Keeps (quoted content) :=
  .text nofun

theorem keeps_manifest : app.manifest.toValue.Keeps manifestNode := by
  have number : Yaml.Plain.unsigned? "2" = some (2 : UInt32).toNat := by decide +kernel
  have flag : Yaml.Plain.bool? "true" = some true := by decide +kernel
  refine .record (.cons ?_ (.cons ?_ (.cons ?_ (.cons ?_ .nil))))
    (.cons (keeps_quoted _) (.cons ?_ (.cons (.number number) (.cons (.flag flag) .nil))))
  case refine_5 =>
    exact .record (.cons (keeps_word (by decide +kernel)) .nil) (.cons (keeps_quoted _) .nil)
  all_goals exact keeps_word (by decide +kernel)

/-- The document as it is written keeps the value of the document. -/
theorem keeps : document.toValue.Keeps node := by
  have apps : (Value.record [("web", app.toValue)]).Keeps appsNode := by
    refine .record (.cons (keeps_word (by decide +kernel)) .nil) (.cons ?_ .nil)
    exact .record (.cons (keeps_word (by decide +kernel)) (.cons (keeps_word (by decide +kernel))
      .nil)) (.cons (keeps_quoted _) (.cons keeps_manifest .nil))
  refine .record (.cons (keeps_word (by decide +kernel)) (.cons (keeps_word (by decide +kernel))
    .nil)) (.cons (keeps_quoted _) (.cons ?_ .nil))
  exact .record (.cons (keeps_word (by decide +kernel)) (.cons (keeps_word (by decide +kernel))
    .nil)) (.cons (.list .nil) (.cons apps .nil))

end QuotedDocument

open QuotedDocument in
/-- A document with quoted numbers and words comes back as it was, and changes nothing. -/
theorem document_survives_encoding_quoted :
    let memory : Memory := { space := document.spec.toSpace }
    let written : Document := .ofSpec (.ofSpace memory.space)
    document.toValue.Keeps node ∧ Document.ofNode node = .ok document ∧
      (∀ kind, memory.fails (Memory.fetchName kind) "" = false) ∧ written ≠ document ∧
      ∃ desired, Document.ofNode (.data written.toValue) = .ok desired ∧
        memory.Settled desired.spec := by
  intro memory written
  have fetches : ∀ kind, memory.fails (Memory.fetchName kind) "" = false := fun _ => rfl
  obtain ⟨reads, _, settles⟩ := document_survives_encoding
  exact ⟨keeps, reads document node keeps, fetches, by decide +kernel,
    (settles memory fetches none).2 _ (.data _)⟩

end CloudSpace
