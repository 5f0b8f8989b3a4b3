import CloudSpace.Platform.Basic
import Mathlib.Data.List.Forall2

/-!
# What tasks lead to

A task that acts on a state ends with a result and leaves a state behind. `Task.Leads` says what
holds of the two, whatever warnings there are before the task, and has one rule for each way to
build a task.
-/
namespace CloudSpace

namespace Task

variable {σ α β : Type}

/-- The result of a task on a state, and the state afterwards. -/
def runOn (task : Task (StateM σ) α) (before : σ) : Except Error α × σ :=
  let ((result, _), after) := task.start.run before
  (result, after)

/-- A task has a result of which something holds, with the state it leaves. Earlier warnings make
no difference to it, and it only adds to them. -/
def Leads (task : Task (StateM σ) α) (before : σ) (post : Except Error α → σ → Prop) : Prop :=
  ∃ result added after, post result after ∧
    ∀ warnings, StateT.run (StateT.run (ExceptT.run task) warnings) before =
      (pure ((result, warnings ++ added), after) : Id _)

theorem Leads.imp {task : Task (StateM σ) α} {before : σ} {post weaker : Except Error α → σ → Prop}
    (leads : task.Leads before post)
    (implies : ∀ result after, post result after → weaker result after) :
    task.Leads before weaker := by
  obtain ⟨result, added, after, holds, traced⟩ := leads
  exact ⟨result, added, after, implies result after holds, traced⟩

/-- What a task leads to is its result and the state afterwards, and nothing else. -/
theorem Leads.exactly {task : Task (StateM σ) α} {before : σ} {post : Except Error α → σ → Prop}
    (leads : task.Leads before post) :
    task.Leads before fun result after =>
      task.runOn before = (result, after) ∧ post result after := by
  obtain ⟨result, added, after, holds, traced⟩ := leads
  refine ⟨result, added, after, ⟨?_, holds⟩, traced⟩
  simp only [Task.runOn, Task.start]
  rw [traced []]
  rfl

theorem Leads.runOn {task : Task (StateM σ) α} {before : σ} {post : Except Error α → σ → Prop}
    (leads : task.Leads before post) : post (task.runOn before).1 (task.runOn before).2 := by
  obtain ⟨result, _, after, ⟨same, holds⟩, _⟩ := leads.exactly
  rw [same]
  exact holds

theorem runOn_eq_of_result {task : Task (StateM σ) α} {before : σ} {result : Except Error α}
    (ran : (task.runOn before).1 = result) :
    task.runOn before = (result, (task.runOn before).2) := Prod.ext ran rfl

/-! ### Rules -/

section

variable {before : σ}

theorem leads_pure {value : α} {post : Except Error α → σ → Prop}
    (holds : post (.ok value) before) :
    Leads (pure value : Task (StateM σ) α) before post :=
  ⟨_, [], _, holds, fun warnings => by rw [List.append_nil]; rfl⟩

theorem leads_throw {error : Error} {post : Except Error α → σ → Prop}
    (holds : post (.error error) before) :
    Leads (throw error : Task (StateM σ) α) before post :=
  ⟨_, [], _, holds, fun warnings => by rw [List.append_nil]; rfl⟩

theorem leads_warn {messages : List String} {post : Except Error Unit → σ → Prop}
    (holds : post (.ok ()) before) : Leads (warn messages) before post :=
  ⟨_, messages, _, holds, fun _ => rfl⟩

theorem leads_act {action : StateM σ α} {post : Except Error α → σ → Prop}
    (holds : post (.ok (action.run before).1) (action.run before).2) :
    Leads (act action) before post :=
  ⟨_, [], _, holds, fun warnings => by rw [List.append_nil]; rfl⟩

/-- A computation that only fails or not leaves the state as it is. -/
theorem leads_lift {computed : Except Error α} {post : Except Error α → σ → Prop}
    (holds : post computed before) :
    Leads (liftM computed : Task (StateM σ) α) before post :=
  ⟨_, [], _, holds, fun warnings => by rw [List.append_nil]; rfl⟩

theorem Leads.bind {first : Task (StateM σ) α} {next : α → Task (StateM σ) β}
    {middle : Except Error α → σ → Prop} {post : Except Error β → σ → Prop}
    (leads : first.Leads before middle)
    (fails : ∀ error after, middle (.error error) after → post (.error error) after)
    (rest : ∀ value after, middle (.ok value) after → (next value).Leads after post) :
    (first >>= next).Leads before post := by
  obtain ⟨result, added, after, holds, traced⟩ := leads
  -- The warnings of both parts are added in their order.
  cases result with
  | ok value =>
    obtain ⟨last, others, final, done, tracedRest⟩ := rest value after holds
    refine ⟨last, added ++ others, final, done, fun warnings => ?_⟩
    rw [ExceptT.run_bind, StateT.run_bind, StateT.run_bind, traced, ← List.append_assoc]
    exact tracedRest (warnings ++ added)
  | error error =>
    refine ⟨.error error, added, after, fails error after holds, fun warnings => ?_⟩
    rw [ExceptT.run_bind, StateT.run_bind, StateT.run_bind, traced]
    rfl

/-- Work that succeeds with a known value goes on with it. -/
theorem Leads.bind_ok {first : Task (StateM σ) α} {next : α → Task (StateM σ) β}
    {value : α} {middle : σ → Prop} {post : Except Error β → σ → Prop}
    (leads : first.Leads before fun result after => result = .ok value ∧ middle after)
    (rest : ∀ after, middle after → (next value).Leads after post) :
    (first >>= next).Leads before post := by
  refine leads.bind (fun error after failed => nomatch failed.1) ?_
  rintro found after ⟨same, holds⟩
  cases same
  exact rest after holds

/-- Work that succeeds with whatever value goes on with what is known of it. -/
theorem Leads.bind_found {first : Task (StateM σ) α} {next : α → Task (StateM σ) β}
    {middle : α → σ → Prop} {post : Except Error β → σ → Prop}
    (leads : first.Leads before fun result after =>
      ∃ value, result = .ok value ∧ middle value after)
    (rest : ∀ value after, middle value after → (next value).Leads after post) :
    (first >>= next).Leads before post := by
  refine leads.bind ?_ ?_
  · rintro error after ⟨_, ⟨⟩, _⟩
  · rintro value after ⟨_, ⟨⟩, holds⟩
    exact rest value after holds

/-- A task that is attempted does not fail. -/
theorem Leads.attempt {task : Task (StateM σ) α} {post : Except Error α → σ → Prop}
    (leads : task.Leads before post) :
    task.attempt.Leads before fun result after =>
      ∃ found, result = .ok found ∧ post found after := by
  obtain ⟨result, added, after, holds, traced⟩ := leads
  refine ⟨.ok result, added, after, ⟨result, rfl, holds⟩, fun warnings => ?_⟩
  rw [Task.attempt, ExceptT.run_mk, StateT.run_bind, StateT.run_bind, traced]
  rfl

/-- Work that succeeds has no error to be wrapped. -/
theorem Leads.wrapError {task : Task (StateM σ) α} {wrap : Error → Error} {post : α → σ → Prop}
    (leads : task.Leads before fun result after => ∃ value, result = .ok value ∧ post value after) :
    (task.wrapError wrap).Leads before fun result after =>
      ∃ value, result = .ok value ∧ post value after := by
  refine leads.attempt.bind_found ?_
  rintro _ after ⟨value, rfl, holds⟩
  exact leads_pure ⟨value, rfl, holds⟩

/-- What holds of each piece of work on a list holds of the pieces one after the other. -/
theorem Leads.mapM {work : α → Task (StateM σ) β} {fits : α → β → Prop} {holds : σ → Prop}
    {items : List α}
    (each : ∀ item ∈ items, ∀ before, holds before → (work item).Leads before fun result after =>
      ∃ value, result = .ok value ∧ fits item value ∧ holds after)
    (held : holds before) :
    (items.mapM work).Leads before fun result after =>
      ∃ values, result = .ok values ∧ List.Forall₂ fits items values ∧ holds after := by
  -- What holds of the state is the invariant; each piece of work may start wherever it holds.
  induction items generalizing before with
  | nil => exact leads_pure ⟨[], rfl, .nil, held⟩
  | cons item rest ih =>
    rw [List.mapM_cons]
    refine (each item List.mem_cons_self before held).bind_found ?_
    intro value middle ⟨fitsFirst, heldMiddle⟩
    have later := ih (fun other member => each other (List.mem_cons_of_mem _ member)) heldMiddle
    refine later.bind_found ?_
    intro values after ⟨fitsRest, heldAfter⟩
    exact leads_pure ⟨value :: values, rfl, .cons fitsFirst fitsRest, heldAfter⟩

end

end Task

end CloudSpace
