import CloudSpace.Proofs.Plan.Provenance
import CloudSpace.Proofs.Reconcile.Preparation
import Mathlib.Data.List.Forall2

/-!
# Failures are confined

What becomes of a planned call is decided by what is set to fail and by the services that there
are, and not by the other calls of its batch. A call that fails has no effect. A run therefore
leaves the space that the calls that succeeded would have made by themselves, and setting further
calls to fail takes away their effects and no others.
-/
namespace CloudSpace

/-- Of some calls those that succeeded, by the outcomes of all of them. -/
def Outcome.succeededCalls (calls : List Call) (outcomes : List Outcome) : List Call :=
  ((calls.zip outcomes).filter (·.2.isSuccess)).map (·.1)

namespace Memory

/-- What becomes of a call that is set to fail. -/
def failedOutcome (call : Call) : Outcome :=
  { operation := call.planned
    error := some (Error.apply call.kind call.entity (injected call.name call.target)).message }

/-- An outcome is that of a call, and it is a failure exactly if the call is set to fail or binds
an application to a service that does not exist. -/
structure Decides (memory : Memory) (call : Call) (outcome : Outcome) : Prop where
  operation : outcome.operation = call.planned
  fails_iff : outcome.error.isSome = true ↔
    (call.name, call.target) ∈ memory.failures ∨
      ∃ name service, call = .bindService name service ∧
        memory.space.services.contains service = false

variable {memory : Memory} {kind : EntityKind} {calls : List Call} {call : Call}

/-! ### One call -/

theorem decides_outcome {desired : Space} (planned : Plan.Planned memory.space desired call) :
    memory.Decides call (memory.outcome call) := by
  refine ⟨rfl, ?_⟩
  have failed : (memory.outcome call).error.isSome = !memory.accepts call := by
    rw [← isSuccess_outcome, Outcome.isSuccess, Option.not_isNone]
  have missing : (memory.space.missingService? call).isSome = true ↔
      ∃ name service, call = .bindService name service ∧
        memory.space.services.contains service = false := by
    cases call <;> simp [Space.missingService?]
  -- A planned call is refused for want of a service only, and before that if it is set to fail.
  rw [failed, accepts, planned.refusal?_eq, ← missing]
  simp [fails]

theorem outcome_of_accepts (accepted : memory.accepts call = true) :
    memory.outcome call = { operation := call.planned } := by
  rw [outcome, (verdict_eq_ok_iff memory call).mpr accepted]

theorem accepts_reliable (accepted : memory.accepts call = true) :
    Memory.accepts { memory with failures := [] } call = true := by
  simp_all [accepts, fails]

/-- Whether a call is set to fail by more failures and not by those that there are. -/
def hits (memory : Memory) (more : List (String × String)) (call : Call) : Bool :=
  more.contains (call.name, call.target) && !memory.fails call.name call.target

/-- To set more calls to fail concerns those calls only. -/
theorem outcome_enlarged {more : List (String × String)} (enlarged : memory.failures ⊆ more)
    (call : Call) :
    let harsher : Memory := { memory with failures := more }
    harsher.accepts call = (memory.accepts call && !memory.hits more call) ∧
      harsher.outcome call =
        if memory.hits more call then failedOutcome call else memory.outcome call := by
  intro harsher
  cases failing : memory.fails call.name call.target with
  | true =>
    -- A call that fails already is not hit, and fails in the same way.
    have noHit : memory.hits more call = false := by simp [hits, failing]
    have still : harsher.fails call.name call.target = true := by
      rw [fails, List.contains_iff_mem] at failing ⊢
      exact enlarged failing
    simp [accepts, outcome, verdict, noHit, still, failing]
  | false =>
    have isHit : memory.hits more call = harsher.fails call.name call.target := by
      rw [hits, failing, Bool.not_false, Bool.and_true]
      rfl
    rw [isHit]
    cases hit : harsher.fails call.name call.target with
    | true => simp [accepts, outcome, verdict, hit, failedOutcome]
    | false =>
      have verdict : harsher.verdict call = memory.verdict call := by
        rw [Memory.verdict, Memory.verdict, hit, failing]
      simp [accepts, outcome, verdict, hit, failing, harsher]

/-- What is prepared does not change as long as the kind is fetched as before. -/
theorem prepared_enlarged {spec : Spec} {preparation : Preparation}
    {more : List (String × String)} (fetches : (fetchName kind, "") ∉ more)
    (prepared : memory.prepared spec kind = .ok (some preparation)) :
    Memory.prepared { memory with failures := more } spec kind = .ok (some preparation) := by
  rw [← prepared]
  apply prepared_congr_of_fails
  · rfl
  · rw [(groups_of_prepared prepared).2.1, fails, List.contains_eq_mem, decide_eq_false fetches]

/-! ### Calls that are apart -/

theorem succeededCalls_map_outcome (memory : Memory) (calls : List Call) :
    Outcome.succeededCalls calls (calls.map memory.outcome) = calls.filter memory.accepts := by
  induction calls with
  | nil => rfl
  | cons call rest ih =>
    simp only [Outcome.succeededCalls] at ih
    simp only [Outcome.succeededCalls, List.map_cons, List.zip_cons_cons, List.filter_cons,
      isSuccess_outcome]
    split
    next => rw [List.map_cons, ih]
    next => exact ih

/-- The calls that are accepted succeed by themselves as well, and make the same space. -/
theorem made_accepted (separate : Separate kind calls) (memory : Memory) :
    let reliable : Memory := { memory with failures := [] }
    reliable.outcomes (calls.filter memory.accepts) =
        (calls.map memory.outcome).filter Outcome.isSuccess ∧
      (reliable.made (calls.filter memory.accepts)).space = (memory.made calls).space := by
  intro reliable
  -- What was accepted beside the calls that failed is accepted without them, so that none of the
  -- calls that are left is dropped.
  have accepted : ∀ call ∈ calls.filter memory.accepts, reliable.accepts call = true :=
    fun call member => accepts_reliable (List.mem_filter.mp member).2
  constructor
  · have successes : (calls.map memory.outcome).filter Outcome.isSuccess =
        (calls.filter memory.accepts).map memory.outcome := by
      rw [List.filter_map]
      congr 2
      funext call
      exact isSuccess_outcome memory call
    rw [outcomes_of_separate (separate.filter _), successes]
    apply List.map_congr_left
    intro call member
    rw [outcome_of_accepts (accepted call member),
      outcome_of_accepts (List.mem_filter.mp member).2]
  · rw [made_space_of_separate (separate.filter _), made_space_of_separate separate,
      List.filter_eq_self.mpr accepted]

end Memory

/-- A run that reports has one outcome for each planned call, in their order, and makes every one
of them. A failure says that the call is set to fail or lacks a service, the calls that succeeded
make the same space by themselves on a platform where none is set to fail, and where more calls are
set to fail, the outcomes and the effects of those calls change and no others. -/
theorem apply_isolates_failures {memory after : Memory} {spec : Spec} {kind : EntityKind}
    {report : RunReport}
    (reported : Memory.run (Memory.platform.apply spec kind) memory = (.ok (some report), after)) :
    ∃ preparation : Preparation,
      (Memory.run (Memory.platform.prepare spec kind) memory).1 = .ok (some preparation) ∧
      let calls := preparation.batch.calls
      let succeeded := Outcome.succeededCalls calls report.outcomes
      let reliable : Memory := { memory with failures := [] }
      List.Forall₂ memory.Decides calls report.outcomes ∧
      after.calls = memory.calls ++ calls.map Call.recorded ∧
      (∃ alone, Memory.run (Memory.platform.execute succeeded) reliable =
          (.ok (report.outcomes.filter Outcome.isSuccess), alone) ∧
        alone.space = after.space) ∧
      ∀ more, memory.failures ⊆ more → (Memory.fetchName kind, "") ∉ more →
        let outcomes := List.zipWith
          (fun call outcome => if memory.hits more call then Memory.failedOutcome call else outcome)
          calls report.outcomes
        ∃ harsher alone,
          Memory.run (Memory.platform.apply spec kind) { memory with failures := more } =
            (.ok (some { report with outcomes }), harsher) ∧
          harsher.calls = after.calls ∧
          Memory.run (Memory.platform.execute (succeeded.filter (!memory.hits more ·))) reliable =
            (.ok (outcomes.filter Outcome.isSuccess), alone) ∧
          alone.space = harsher.space := by
  rw [Memory.run_apply] at reported
  obtain ⟨preparation, prepared, rfl, rfl⟩ := Memory.applied_eq_some_iff.mp reported
  have separate := Memory.separate_of_prepared prepared
  have outcomes : (memory.report preparation).outcomes =
      preparation.batch.calls.map memory.outcome := Memory.outcomes_of_prepared prepared
  refine ⟨preparation, ?_, ?_⟩
  · rw [Memory.run_prepare, prepared]
  intro calls succeeded reliable
  -- Each call meets the same verdict whatever calls were made before it, as all are apart.
  have isSucceeded : succeeded = calls.filter memory.accepts := by
    rw [← Memory.succeededCalls_map_outcome, ← outcomes]
  refine ⟨?_, Memory.made_calls memory calls, ?_, ?_⟩
  · rw [outcomes, List.forall₂_map_right_iff, List.forall₂_same]
    intro call member
    -- The call was planned for this very space, which is what its refusal is decided by.
    have inPlan : call ∈ Plan.calls kind memory.space spec.toSpace := by
      rwa [← (Memory.calls_of_prepared prepared).2.1]
    exact Memory.decides_outcome (Plan.planned_of_mem_calls inPlan)
  · obtain ⟨successes, space⟩ := Memory.made_accepted separate memory
    rw [isSucceeded, outcomes, Memory.run_execute, ← successes]
    exact ⟨_, rfl, space⟩
  · intro more enlarged fetches allOutcomes
    let harsher : Memory := { memory with failures := more }
    -- The same calls are made, so that their outcomes can be compared one by one.
    have isOutcomes : harsher.outcomes calls = allOutcomes := by
      simp only [allOutcomes]
      rw [Memory.outcomes_of_separate separate, outcomes, List.zipWith_map_right, List.zipWith_self]
      exact List.map_congr_left fun call _ => (Memory.outcome_enlarged enlarged call).2
    have isAccepted : succeeded.filter (!memory.hits more ·) = calls.filter harsher.accepts := by
      rw [isSucceeded, List.filter_filter]
      apply List.filter_congr
      intro call _
      rw [(Memory.outcome_enlarged enlarged call).1, Bool.and_comm]
    obtain ⟨successes, space⟩ := Memory.made_accepted separate harsher
    refine ⟨harsher.made calls, reliable.made (calls.filter harsher.accepts), ?_, ?_, ?_, space⟩
    · rw [Memory.run_apply]
      refine Memory.applied_eq_some_iff.mpr
        ⟨preparation, Memory.prepared_enlarged fetches prepared, ?_, rfl⟩
      rw [← isOutcomes]
      rfl
    · rw [Memory.made_calls, Memory.made_calls]
    · rw [isAccepted, Memory.run_execute, ← isOutcomes, Memory.outcomes_of_separate separate,
        ← successes]

/-- Of three bindings one is set to fail and one lacks its service. Once bindings of the other
application are set to fail as well, the space stays as it is. -/
theorem apply_isolates_failures_bindings :
    let live : Space := {
      applications := .ofList [("api", {}), ("web", {})]
      services := .ofList [("db", ⟨"sql", "small", [], ∅⟩)] }
    let memory : Memory := { space := live, failures := [("bind_service", "api")] }
    let spec : Spec := { applications := some (.ofList [
      ("api", { manifest := { services := ["db"] } }),
      ("web", { manifest := { services := ["cache", "db"] } })]) }
    ∃ report after, ∃ preparation : Preparation,
      Memory.run (Memory.platform.apply spec .applications) memory =
        (.ok (some report), after) ∧
      report.outcomes.map Outcome.isSuccess = [false, false, true] ∧
      List.Forall₂ memory.Decides preparation.batch.calls report.outcomes ∧
      (∃ alone, Memory.run (Memory.platform.execute [.bindService "web" "db"])
          { space := live } = (.ok [⟨⟨.applications, "web", .bindService "db"⟩, none⟩], alone) ∧
        alone.space = after.space) ∧
      ∃ harsher, (Memory.run (Memory.platform.apply spec .applications)
          { memory with failures := [("bind_service", "api"), ("bind_service", "web")] }).2 =
            harsher ∧ harsher.calls = after.calls ∧ harsher.space = live := by
  intro live memory spec
  -- The section is there, the fetch does not fail and no name is empty.
  have present : spec.restrict? .applications = some spec.toSpace := rfl
  obtain ⟨found, prepared⟩ : ∃ found, memory.prepared spec .applications = .ok (some found) :=
    Memory.exists_prepared present (by decide +kernel) (by decide +kernel) (by decide +kernel)
  have reported : Memory.run (Memory.platform.apply spec .applications) memory =
      (.ok (some (memory.report found)), memory.made found.batch.calls) := by
    rw [Memory.run_apply]
    exact Memory.applied_eq_some_iff.mpr ⟨found, prepared, rfl, rfl⟩
  have calls : found.batch.calls =
      [.bindService "api" "db", .bindService "web" "cache", .bindService "web" "db"] :=
    (Memory.calls_of_prepared prepared).2.1.trans (by decide +kernel)
  have outcomes : (memory.report found).outcomes = memory.outcomes
      [.bindService "api" "db", .bindService "web" "cache", .bindService "web" "db"] :=
    congrArg memory.outcomes calls
  obtain ⟨preparation, planned, decided, _, byThemselves, further⟩ :=
    apply_isolates_failures reported
  obtain rfl : preparation = found := by
    rw [Memory.run_prepare, prepared] at planned
    simpa using planned.symm
  have succeeded : Outcome.succeededCalls preparation.batch.calls
      (memory.report preparation).outcomes = [.bindService "web" "db"] := by
    rw [outcomes, calls]
    decide +kernel
  have successes : (memory.report preparation).outcomes.filter Outcome.isSuccess =
      [⟨⟨.applications, "web", .bindService "db"⟩, none⟩] := by
    rw [outcomes]
    decide +kernel
  -- The binding that has succeeded is now set to fail as well.
  obtain ⟨harsher, alone, ran, recorded, nothing, space⟩ :=
    further [("bind_service", "api"), ("bind_service", "web")] (by simp [memory]) (by decide)
  rw [succeeded, successes] at byThemselves
  -- With the last binding set to fail there is nothing left to make.
  rw [succeeded] at nothing
  have isAlone : alone = { space := live } := (congrArg Prod.snd nothing).symm.trans rfl
  refine ⟨_, _, preparation, reported, ?_, decided, byThemselves, harsher, ?_, recorded, ?_⟩
  · rw [outcomes]
    decide +kernel
  · exact congrArg Prod.snd ran
  · rw [← space, isAlone]

end CloudSpace
