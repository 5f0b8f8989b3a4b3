import CloudSpace.Plan.Batch
import CloudSpace.Proofs.Platform.Independence

/-!
# Making calls on the platform in memory

A call is recorded, has a verdict, and takes effect if the verdict is good. For calls that are
pairwise apart the verdicts are those on the platform before all of them, so that the space
afterwards is made by the calls that were accepted and by no other.
-/
namespace CloudSpace

namespace Memory

/-! ### One call -/

/-- What a call is answered. -/
def verdict (memory : Memory) (call : Call) : Except Error Unit :=
  if memory.fails call.name call.target then .error (injected call.name call.target)
  else
    match memory.space.refusal? call with
    | some cause => .error (.platform cause)
    | none => .ok ()

def accepts (memory : Memory) (call : Call) : Bool :=
  !memory.fails call.name call.target && (memory.space.refusal? call).isNone

/-- The platform after a call. -/
def next (memory : Memory) (call : Call) : Memory :=
  { memory with
    calls := memory.calls ++ [call.recorded]
    space := if memory.accepts call then memory.space.effect call else memory.space }

/-- What becomes of a call. -/
def outcome (memory : Memory) (call : Call) : Outcome :=
  { operation := call.planned
    error := match memory.verdict call with
      | .ok _ => none
      | .error error => some (Error.apply call.kind call.entity error).message }

/-- A step is the verdict on the call and the memory after it. -/
theorem step_eq (memory : Memory) (call : Call) :
    memory.step call = (memory.verdict call, memory.next call) := by
  have after := memory.space.after_eq call
  cases refused : memory.space.refusal? call <;>
    cases failing : memory.fails call.name call.target <;>
    simp_all [step, verdict, next, accepts]

/-- The verdict is good just when the call is accepted. -/
theorem verdict_eq_ok_iff (memory : Memory) (call : Call) :
    memory.verdict call = .ok () ↔ memory.accepts call = true := by
  simp only [verdict, accepts]
  split
  next failing => simp [failing]
  next passing => cases memory.space.refusal? call <;> simp [passing]

@[simp] theorem operation_outcome (memory : Memory) (call : Call) :
    (memory.outcome call).operation = call.planned := rfl

@[simp] theorem isSuccess_outcome (memory : Memory) (call : Call) :
    (memory.outcome call).isSuccess = memory.accepts call := by
  apply Bool.eq_iff_iff.mpr
  rw [← verdict_eq_ok_iff, outcome, Outcome.isSuccess]
  cases memory.verdict call <;> simp

@[simp] theorem next_failures (memory : Memory) (call : Call) :
    (memory.next call).failures = memory.failures := rfl

/-! ### One call after the other -/

/-- What becomes of calls that are made one after the other. -/
def outcomes : Memory → List Call → List Outcome
  | _, [] => []
  | memory, call :: rest => memory.outcome call :: (memory.next call).outcomes rest

/-- The platform after some calls. -/
def made (memory : Memory) (calls : List Call) : Memory := calls.foldl next memory

@[simp] theorem made_nil (memory : Memory) : memory.made [] = memory := rfl

theorem made_cons (memory : Memory) (call : Call) (calls : List Call) :
    memory.made (call :: calls) = (memory.next call).made calls := rfl

theorem made_failures (memory : Memory) (calls : List Call) :
    (memory.made calls).failures = memory.failures := by
  induction calls generalizing memory with
  | nil => rfl
  | cons call rest ih => rw [made_cons, ih, next_failures]

theorem made_calls (memory : Memory) (calls : List Call) :
    (memory.made calls).calls = memory.calls ++ calls.map Call.recorded := by
  induction calls generalizing memory with
  | nil => simp
  | cons call rest ih => simp [made_cons, ih, next]

theorem operations_outcomes (memory : Memory) (calls : List Call) :
    (memory.outcomes calls).map Outcome.operation = calls.map Call.planned := by
  induction calls generalizing memory with
  | nil => rfl
  | cons call rest ih => simp [outcomes, ih]

/-- Calls of other kinds leave the entities of a kind as they are. -/
theorem restrict_made (memory : Memory) (calls : List Call) (kind : EntityKind)
    (others : ∀ call ∈ calls, call.kind ≠ kind) :
    (memory.made calls).space.restrict kind = memory.space.restrict kind := by
  induction calls generalizing memory with
  | nil => rfl
  | cons call rest ih =>
    rw [made_cons, ih _ fun other member => others other (List.mem_cons_of_mem _ member)]
    simp only [next]
    split
    · exact Space.restrict_effect _ _ _ (others call List.mem_cons_self)
    · rfl

/-! ### Calls that are apart -/

/-- A call apart from another one of its kind is as good before it as after it. -/
theorem verdict_next {memory : Memory} {first second : Call}
    (sameKind : first.kind = second.kind) (keeps : first.isRename = false)
    (apart : first.Apart second) :
    (memory.next first).verdict second = memory.verdict second ∧
      (memory.next first).accepts second = memory.accepts second := by
  have refusal : (memory.next first).space.refusal? second = memory.space.refusal? second := by
    simp only [next]
    split
    · exact Space.refusal?_effect _ sameKind keeps apart
    · rfl
  simp only [verdict, accepts, refusal]
  exact ⟨rfl, rfl⟩

private theorem verdicts_next {kind : EntityKind} {memory : Memory} {call : Call}
    {rest : List Call} (separate : Separate kind (call :: rest)) {other : Call}
    (member : other ∈ rest) :
    (memory.next call).verdict other = memory.verdict other ∧
      (memory.next call).accepts other = memory.accepts other := by
  apply verdict_next
  · exact (separate.kinds call List.mem_cons_self).trans
      (separate.kinds other (List.mem_cons_of_mem _ member)).symm
  · exact separate.keep call List.mem_cons_self
  · exact (List.pairwise_cons.mp separate.apart).1 other member

/-- No call has a say in what becomes of another. -/
theorem outcomes_of_separate {kind : EntityKind} {calls : List Call}
    (separate : Separate kind calls) (memory : Memory) :
    memory.outcomes calls = calls.map memory.outcome := by
  induction calls generalizing memory with
  | nil => rfl
  | cons call rest ih =>
    rw [outcomes, ih separate.tail, List.map_cons]
    congr 1
    apply List.map_congr_left
    intro other member
    simp only [outcome, (verdicts_next separate member).1]

/-- The space is changed by the calls that are accepted. -/
theorem made_space_of_separate {kind : EntityKind} {calls : List Call}
    (separate : Separate kind calls) (memory : Memory) :
    (memory.made calls).space =
      (calls.filter memory.accepts).foldl Space.effect memory.space := by
  induction calls generalizing memory with
  | nil => rfl
  | cons call rest ih =>
    -- After one call the platform still accepts the same of the others.
    have accepted : rest.filter (memory.next call).accepts = rest.filter memory.accepts :=
      List.filter_congr fun other member => (verdicts_next separate member).2
    rw [made_cons, ih separate.tail, accepted]
    simp only [next, List.filter_cons]
    split
    · rfl
    · rfl

end Memory

end CloudSpace
