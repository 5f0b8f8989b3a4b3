import CloudSpace.Reconcile
import CloudSpace.Proofs.Platform.Memory

/-!
# Running tasks on the platform in memory

What a task comes to on the platform in memory does not depend on the warnings left before it.
`Memory.Yields` says what it comes to, one rule for each way to build a task, and the tasks of
reconciliation are traced through these rules to plain functions on the state of the platform.
-/
namespace CloudSpace

variable {α β : Type}

namespace Memory

/-- The result of a task, and the platform afterwards. -/
def run (task : Task (StateM Memory) α) (memory : Memory) : Except Error α × Memory :=
  let ((result, _), after) := task.start.run memory
  (result, after)

/-- Whatever warnings there are before it, a task has a result on one state of the platform and
leaves another. -/
def Yields (task : Task (StateM Memory) α) (before : Memory) (result : Except Error α)
    (after : Memory) : Prop :=
  ∀ warnings, ∃ more, StateT.run (StateT.run (ExceptT.run task) warnings) before =
    (pure ((result, more), after) : Id _)

/-- What a task yields is what it is run to, its warnings left out. -/
theorem Yields.run_eq {task : Task (StateM Memory) α} {before after : Memory}
    {result : Except Error α} (yields : Yields task before result after) :
    run task before = (result, after) := by
  obtain ⟨more, traced⟩ := yields []
  simp only [run, Task.start]
  rw [traced]
  rfl

/-! ### Rules -/

theorem yields_pure (value : α) (memory : Memory) :
    Yields (pure value) memory (.ok value) memory := fun warnings => ⟨warnings, rfl⟩

theorem yields_throw (error : Error) (memory : Memory) :
    Yields (throw error : Task (StateM Memory) α) memory (.error error) memory :=
  fun warnings => ⟨warnings, rfl⟩

theorem yields_warn (messages : List String) (memory : Memory) :
    Yields (Task.warn messages) memory (.ok ()) memory :=
  fun warnings => ⟨warnings ++ messages, rfl⟩

theorem yields_task (act : Memory → Except Error α × Memory) (memory : Memory) :
    Yields (task act) memory (act memory).1 (act memory).2 := fun warnings => ⟨warnings, rfl⟩

/-- One task after another yields what the second one does. -/
theorem Yields.bind {first : Task (StateM Memory) α} {next : α → Task (StateM Memory) β}
    {before middle after : Memory} {value : α} {result : Except Error β}
    (yields : Yields first before (.ok value) middle)
    (rest : Yields (next value) middle result after) :
    Yields (first >>= next) before result after := by
  intro warnings
  obtain ⟨more, traced⟩ := yields warnings
  obtain ⟨last, tracedRest⟩ := rest more
  refine ⟨last, ?_⟩
  rw [ExceptT.run_bind, StateT.run_bind, StateT.run_bind, traced]
  exact tracedRest

/-- A task that fails ends what it is part of. -/
theorem Yields.bind_error {first : Task (StateM Memory) α} {next : α → Task (StateM Memory) β}
    {before after : Memory} {error : Error} (yields : Yields first before (.error error) after) :
    Yields (first >>= next) before (.error error) after := by
  intro warnings
  obtain ⟨more, traced⟩ := yields warnings
  refine ⟨more, ?_⟩
  rw [ExceptT.run_bind, StateT.run_bind, StateT.run_bind, traced]
  rfl

/-- Work that only reads goes on with what it has read, if it has read something. -/
theorem Yields.bind_read {first : Task (StateM Memory) α} {next : α → Task (StateM Memory) β}
    {memory : Memory} {read : Except Error α} {rest : α → Except Error β}
    (yields : Yields first memory read memory)
    (yieldsRest : ∀ value, Yields (next value) memory (rest value) memory) :
    Yields (first >>= next) memory (read >>= rest) memory := by
  cases read with
  | ok value => exact yields.bind (yieldsRest value)
  | error error => exact yields.bind_error

/-- A task that is attempted yields its result, whatever that is. -/
theorem Yields.attempt {task : Task (StateM Memory) α} {before after : Memory}
    {result : Except Error α} (yields : Yields task before result after) :
    Yields task.attempt before (.ok result) after := by
  intro warnings
  obtain ⟨more, traced⟩ := yields warnings
  refine ⟨more, ?_⟩
  rw [Task.attempt, ExceptT.run_mk, StateT.run_bind, StateT.run_bind, traced]
  rfl

theorem Yields.map {task : Task (StateM Memory) α} {before after : Memory}
    {result : Except Error α} (f : α → β) (yields : Yields task before result after) :
    Yields (do return f (← task)) before (result.map f) after := by
  cases result with
  | ok value => exact yields.bind (yields_pure _ _)
  | error error => exact yields.bind_error

theorem Yields.wrapError {task : Task (StateM Memory) α} {before after : Memory}
    {result : Except Error α} (wrap : Error → Error) (yields : Yields task before result after) :
    Yields (task.wrapError wrap) before (result.mapError wrap) after := by
  refine yields.attempt.bind ?_
  cases result with
  | ok value => exact yields_pure _ _
  | error error => exact yields_throw _ _

/-! ### Making calls -/

theorem yields_try (memory : Memory) (call : Call) :
    Yields (platform.try call) memory (.ok (memory.outcome call)) (memory.next call) := by
  have performed : Yields (platform.perform call) memory (memory.verdict call)
      (memory.next call) := by
    have traced := yields_task (fun memory => memory.step call) memory
    rwa [step_eq] at traced
  refine performed.attempt.bind ?_
  simp only [outcome]
  cases memory.verdict call with
  | ok _ => exact yields_pure _ _
  | error error => exact yields_pure _ _

/-- Calls that are executed are tried one after the other, each to its end. -/
theorem yields_execute (memory : Memory) (calls : List Call) :
    Yields (platform.execute calls) memory (.ok (memory.outcomes calls))
      (memory.made calls) := by
  -- One call after the other; the platform that the rest is made on is the one after the first.
  have made : ∀ calls memory, Yields (calls.mapM platform.try) memory
      (.ok (outcomes memory calls)) (memory.made calls) := by
    intro calls
    induction calls with
    | nil => exact fun memory => yields_pure _ _
    | cons call rest ih =>
      intro memory
      rw [List.mapM_cons]
      exact (yields_try memory call).bind ((ih _).bind (yields_pure _ _))
  exact (made calls memory).bind ((yields_warn _ _).bind (yields_pure _ _))

end Memory

end CloudSpace
