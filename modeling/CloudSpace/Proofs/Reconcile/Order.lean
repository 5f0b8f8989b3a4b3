import CloudSpace.Proofs.Reconcile.Preparation

/-!
# The order of a batch does not matter

The calls of a batch may be made in any order. What becomes of each call is decided by the
platform before the first of them, and the effects of the accepted ones commute up to the order
of bindings and developers.
-/
namespace CloudSpace

namespace Memory

variable {kind : EntityKind} {calls order : List Call}

/-- Calls that are apart have the same outcomes in every order, and leave platforms that are
alike. -/
theorem made_perm (separate : Separate kind calls) (perm : order.Perm calls) (memory : Memory) :
    memory.outcomes order = order.map memory.outcome ∧
      (memory.made order).space.Alike (memory.made calls).space := by
  have separateOrder := separate.perm perm
  refine ⟨outcomes_of_separate separateOrder memory, ?_⟩
  rw [made_space_of_separate separateOrder, made_space_of_separate separate]
  exact (separateOrder.filter _).alike_of_perm (perm.filter _) (.refl _)

end Memory

/-- The calls planned for a kind, made in any order on any platform, in particular on the one
they were planned for, have the same outcomes as in the planned order, call by call, and lead to
the same space up to the order of bindings and developers. -/
theorem execute_perm {planning : Memory} (memory : Memory) {spec : Spec} {kind : EntityKind}
    {preparation : Preparation} {order : List Call}
    (planned : (Memory.run (Memory.platform.prepare spec kind) planning).1 = .ok (some preparation))
    (perm : order.Perm preparation.batch.calls) :
    let inOrder := Memory.run (Memory.platform.execute order) memory
    let asPlanned := Memory.run (Memory.platform.execute preparation.batch.calls) memory
    ∃ outcome : Call → Outcome, inOrder.1 = .ok (order.map outcome) ∧
      asPlanned.1 = .ok (preparation.batch.calls.map outcome) ∧
      inOrder.2.space.Alike asPlanned.2.space := by
  intro inOrder asPlanned
  rw [Memory.run_prepare] at planned
  obtain ⟨_, calls, _⟩ := Memory.calls_of_prepared planned
  -- The calls of a plan are separate, which is why their order does not matter.
  have separate : Separate kind preparation.batch.calls := by
    rw [calls]
    exact Plan.separate_calls kind _ _
  have isInOrder : inOrder = (.ok (memory.outcomes order), memory.made order) :=
    Memory.run_execute memory order
  have isPlanned : asPlanned = (.ok (memory.outcomes preparation.batch.calls),
      memory.made preparation.batch.calls) := Memory.run_execute memory _
  obtain ⟨outcomes, alike⟩ := Memory.made_perm separate perm memory
  rw [isInOrder, isPlanned]
  exact ⟨memory.outcome, congrArg _ outcomes,
    congrArg _ (Memory.outcomes_of_separate separate memory), alike⟩

/-- Two bindings of one application are made in the planned order or the other way around. -/
theorem execute_perm_bindings :
    let spec : Spec := { applications := some (.ofList
      [("web", { manifest := { services := ["db", "cache"] } })]) }
    let memory : Memory := { space := {
      applications := .ofList [("web", {})]
      services := .ofList
        [("cache", ⟨"redis", "small", [], ∅⟩), ("db", ⟨"sql", "small", [], ∅⟩)] } }
    ∃ preparation : Preparation,
      (Memory.run (Memory.platform.prepare spec .applications) memory).1 = .ok (some preparation) ∧
      preparation.batch.calls = [.bindService "web" "cache", .bindService "web" "db"] ∧
      ∃ outcome : Call → Outcome,
        (Memory.run (Memory.platform.execute preparation.batch.calls.reverse) memory).1 =
          .ok (preparation.batch.calls.reverse.map outcome) ∧
        (Memory.run (Memory.platform.execute preparation.batch.calls) memory).1 =
          .ok (preparation.batch.calls.map outcome) ∧
        (Memory.run (Memory.platform.execute preparation.batch.calls.reverse) memory).2.space.Alike
          (Memory.run (Memory.platform.execute preparation.batch.calls) memory).2.space := by
  intro spec memory
  have present : spec.restrict? .applications = some spec.toSpace := rfl
  -- Nothing fails and no name is empty, so that there is something prepared.
  have planned : ∃ preparation, memory.prepared spec .applications = .ok (some preparation) :=
    Memory.exists_prepared present (by decide +kernel) (by decide +kernel)
      (by decide +kernel)
  obtain ⟨preparation, prepared⟩ := planned
  have run := congrArg Prod.fst (Memory.run_prepare memory spec .applications)
  have calls := (Memory.calls_of_prepared prepared).2.1
  refine ⟨preparation, run.trans prepared, ?_, ?_⟩
  · rw [calls]
    decide +kernel
  · exact execute_perm memory (run.trans prepared) (List.reverse_perm _)

end CloudSpace
