import CloudSpace.Proofs.Plan.Provenance
import CloudSpace.Proofs.Reconcile.Preparation
import CloudSpace.Proofs.Validation

/-!
# Plans of valid documents

What a call hands to the platform is taken from the desired side, never from the live one. What a
document was checked for therefore still holds of the calls that are planned, whatever is live:
nothing is made under a name that entities cannot have, nothing that has to be given is blank, and
no size is zero.
-/
namespace CloudSpace

/-- A scaling that sets something, and nothing to zero. -/
structure Scale.Positive (scale : Scale) : Prop where
  nonempty : scale.isEmpty = false
  instances : scale.instances ≠ some 0
  memory : scale.memory ≠ some 0
  disk : scale.disk ≠ some 0

/-- What a valid document may ask for. -/
def PlannedOperation.Sound (planned : PlannedOperation) : Prop :=
  match planned.operation with
  | .createApplication => UsableName planned.entity
  | .createService offering plan =>
    UsableName planned.entity ∧ Text.isBlankText offering = false ∧ Text.isBlankText plan = false
  | .grantDeveloper user => Text.isBlankText user = false
  | .scaleApplication scale => scale.Positive
  | _ => True

namespace Plan

/-- Sizes that differ are scaled to the desired ones. -/
theorem positive_scaleDelta {live desired : Manifest} (positive : desired.Positive)
    (sized : (scaleDelta live desired).isEmpty = false) : (scaleDelta live desired).Positive := by
  have changed {size : Option UInt32} (nonzero : size ≠ some 0) (held : Option UInt32) :
      (if held = size then none else size) ≠ some 0 := by
    split
    · simp
    · exact nonzero
  exact ⟨sized, changed positive.instances _, changed positive.memory _, changed positive.disk _⟩

/-- What is planned towards a valid space is sound, and so is every configuration that an
application is made with. -/
theorem Planned.sound {live desired : Space} {call : Call} (valid : desired.Valid)
    (planned : Planned live desired call) :
    call.planned.Sound ∧ ∀ name app, call = .createApplication name app →
      app.manifest.Positive := by
  -- Each rule says which desired record the call takes its values from.
  cases planned with
  | createApplication _ wanted =>
    obtain ⟨usable, positive⟩ := valid.applications _ _ wanted
    refine ⟨usable, ?_⟩
    rintro _ _ ⟨⟩
    exact positive
  | createService _ wanted =>
    obtain ⟨usable, offering, plan⟩ := valid.services _ _ wanted
    exact ⟨⟨usable, offering, plan⟩, by simp⟩
  | scaleApplication _ wanted sized =>
    exact ⟨positive_scaleDelta (valid.applications _ _ wanted).positive sized, by simp⟩
  | grantDeveloper _ wanted => exact ⟨valid.developers _ wanted, by simp⟩
  | _ => exact ⟨trivial, by simp⟩

end Plan

/-- Against any live space, what is planned for a document without a problem is sound, and every
application is made with a configuration in which nothing that is counted is zero. -/
theorem validated_plan_sound {document : Document} {cautions : List Caution} {memory : Memory}
    {kind : EntityKind} {plan : PlanReport} (validated : document.validate = .ok cautions)
    (planned : (Memory.run (Memory.platform.plan document.spec kind) memory).1 =
      .ok (some plan)) :
    (∀ operation ∈ plan.operations, operation.Sound) ∧
      ∃ preparation : Preparation,
        (Memory.run (Memory.platform.prepare document.spec kind) memory).1 =
          .ok (some preparation) ∧
        plan.operations = preparation.batch.calls.map Call.planned ∧
        ∀ name app, .createApplication name app ∈ preparation.batch.calls →
          app.manifest.Positive := by
  have valid := (Document.validate_eq_ok_iff.mp validated).1.space
  rw [Memory.run_plan] at planned
  obtain ⟨preparation, prepared, rfl⟩ := Memory.planned_eq_some_iff.mp planned
  -- Every planned call has its reason in the desired space, which the validation has accepted.
  have sound : ∀ call ∈ preparation.batch.calls, call.planned.Sound ∧
      ∀ name app, call = .createApplication name app → app.manifest.Positive := by
    intro call member
    rw [(Memory.calls_of_prepared prepared).2.1] at member
    exact (Plan.planned_of_mem_calls member).sound valid
  refine ⟨?_, preparation, ?_, rfl, ?_⟩
  · intro operation member
    obtain ⟨call, isCall, rfl⟩ := List.mem_map.mp member
    exact (sound call isCall).1
  · rw [Memory.run_prepare, prepared]
  · intro name app member
    exact (sound _ member).2 name app rfl

/-- One application is made and another one, which runs without an instance, is scaled. -/
theorem validated_plan_sound_scaling :
    let document : Document := { spec := { applications := some (.ofList [
      ("api", { manifest := { memory := some 64 } }),
      ("web", { manifest := { instances := some 2 } })]) } }
    let memory : Memory := { space := { applications := .ofList [
      ("web", { manifest := { instances := some 0, memory := some 0 } })] } }
    document.validate = .ok [] ∧
      ∃ plan, (Memory.run (Memory.platform.plan document.spec .applications) memory).1 =
          .ok (some plan) ∧
        plan.operations = [⟨.applications, "api", .createApplication⟩,
          ⟨.applications, "web", .scaleApplication { instances := some 2 }⟩] ∧
        (∀ operation ∈ plan.operations, operation.Sound) ∧
        ∃ preparation : Preparation,
          (Memory.run (Memory.platform.prepare document.spec .applications) memory).1 =
            .ok (some preparation) ∧
          plan.operations = preparation.batch.calls.map Call.planned ∧
          ∀ name app, .createApplication name app ∈ preparation.batch.calls →
            app.manifest.Positive := by
  intro document memory
  have validated : document.validate = .ok [] := by decide +kernel
  have present : document.spec.restrict? .applications = some document.spec.toSpace := rfl
  -- The names are not empty and nothing fails, so that the section is prepared.
  obtain ⟨found, prepared⟩ :
      ∃ found, memory.prepared document.spec .applications = .ok (some found) :=
    Memory.exists_prepared present (by decide +kernel) (by decide +kernel) (by decide +kernel)
  have planned : (Memory.run (Memory.platform.plan document.spec .applications) memory).1 =
      .ok (some found.planned) := by
    rw [Memory.run_plan]
    exact Memory.planned_eq_some_iff.mpr ⟨found, prepared, rfl⟩
  refine ⟨validated, found.planned, planned, ?_, validated_plan_sound validated planned⟩
  have calls := (Memory.calls_of_prepared prepared).2.1
  exact (congrArg (List.map Call.planned) calls).trans (by decide +kernel)

end CloudSpace
