import CloudSpace.Proofs.Platform.Run

/-!
# Calls in memory are atomic

A call on the platform in memory leaves one record behind and nothing else that says whether it
succeeded. It is refused if it is set to fail, if what it creates exists, or if something that it
needs is missing; then the space stays as it was. After any run of calls the space is therefore
what the calls that succeeded make of it one after the other.
-/
namespace CloudSpace

/-! ### What calls create and need -/

/-- The application or the service that a call creates. -/
def Call.creates? : Call → Option (EntityKind × String)
  | .createApplication name _ => some (.applications, name)
  | .createService name _ => some (.services, name)
  | _ => none

/-- What has to exist for a call, in the order in which it is looked for. -/
def Call.needs : Call → List (EntityKind × String)
  | .createApplication .. | .createService .. | .grantDeveloper _ | .revokeDeveloper _ => []
  | .deleteService name => [(.services, name)]
  | .bindService name service => [(.services, service), (.applications, name)]
  | call => [(.applications, call.target)]

/-- Whether there is an application or a service of a name. -/
def Space.has (space : Space) : EntityKind × String → Bool
  | (.applications, name) => space.applications.contains name
  | (.services, name) => space.services.contains name
  | (.developers, _) => false

@[simp] theorem Space.has_applications (space : Space) (name : String) :
    space.has (.applications, name) = space.applications.contains name := rfl

@[simp] theorem Space.has_services (space : Space) (name : String) :
    space.has (.services, name) = space.services.contains name := rfl

/-- The refusal of a call that creates something which may exist already. -/
def Space.conflict? (space : Space) (call : Call) : Option PlatformError :=
  (call.creates?.filter space.has).map fun entity =>
    .alreadyExists entity.1.displayName entity.2

/-- The refusal of a call for the first thing that it needs and that is missing. -/
def Space.lack? (space : Space) (call : Call) : Option PlatformError :=
  (call.needs.find? (!space.has ·)).map fun entity => .notFound entity.1.displayName entity.2

/-- A call is refused if what it creates exists, or else for the first entity it lacks. -/
theorem Space.refusal?_eq (space : Space) (call : Call) :
    space.refusal? call = (space.conflict? call).or (space.lack? call) := by
  -- The branches of the refusal are gone through for each call.
  cases call with
  | createApplication name _ =>
    cases held : space.applications.contains name <;>
      simp [refusal?, conflict?, lack?, Call.creates?, Call.needs, Option.filter, held]
    rfl
  | createService name _ =>
    cases held : space.services.contains name <;>
      simp [refusal?, conflict?, lack?, Call.creates?, Call.needs, Option.filter, held]
    rfl
  | deleteService name =>
    cases held : space.services.contains name <;>
      simp [refusal?, conflict?, lack?, Call.creates?, Call.needs, held]
    rfl
  | bindService name service =>
    -- The service is looked for before the application.
    cases heldService : space.services.contains service <;>
      cases held : space.applications.contains name <;>
      simp [refusal?, conflict?, lack?, Call.creates?, Call.needs, held, heldService]
    all_goals rfl
  | grantDeveloper _ => rfl
  | revokeDeveloper _ => rfl
  -- Every other call is about an application that has to exist.
  | deleteApplication name | renameApplication name _ | scaleApplication name _
  | setHealthCheck name _ _ | addEnvironmentVariable name _ _ | removeEnvironmentVariable name _
  | unbindService name _ =>
    cases held : space.applications.contains name <;>
      simp [refusal?, conflict?, lack?, Call.creates?, Call.needs, Call.target, held]
    rfl

namespace Memory

/-- Why a call is refused. -/
inductive Refuses (memory : Memory) (call : Call) : Error → Prop
  | injected (set : (call.name, call.target) ∈ memory.failures) :
    Refuses memory call (injected call.name call.target)
  | exists {kind : EntityKind} {name : String}
    (unset : (call.name, call.target) ∉ memory.failures)
    (created : call.creates? = some (kind, name)) (held : memory.space.has (kind, name) = true) :
    Refuses memory call (.platform (.alreadyExists kind.displayName name))
  | missing {kind : EntityKind} {name : String}
    (unset : (call.name, call.target) ∉ memory.failures)
    (first : call.needs.find? (!memory.space.has ·) = some (kind, name)) :
    Refuses memory call (.platform (.notFound kind.displayName name))

/-- What a call answers and leaves behind: one record, and an effect on the space exactly if it is
not refused. -/
structure Atomic (before : Memory) (call : Call) (result : Except Error Unit) (after : Memory) :
    Prop where
  recorded : after.calls = before.calls ++ [call.recorded]
  failures : after.failures = before.failures
  refused : ∀ error, result = .error error ↔ before.Refuses call error
  untouched : ∀ error, result = .error error → after.space = before.space
  effective : result = .ok () → before.space.after call = .ok after.space

/-- Calls that are made one after the other, each of them atomic. -/
inductive Transcript : Memory → List Call → List (Except Error Unit) → Memory → Prop
  | nil (memory : Memory) : Transcript memory [] [] memory
  | cons {before middle after : Memory} {call : Call} {calls : List Call}
    {result : Except Error Unit} {results : List (Except Error Unit)}
    (first : before.Atomic call result middle) (rest : Transcript middle calls results after) :
    Transcript before (call :: calls) (result :: results) after

/-- Of some calls those that succeeded, by the answers to all of them. -/
def succeededCalls (calls : List Call) (results : List (Except Error Unit)) : List Call :=
  ((calls.zip results).filter (·.2.isOk)).map (·.1)

/-! ### One call -/

theorem needs_of_creates {call : Call} {entity : EntityKind × String}
    (created : call.creates? = some entity) : call.needs = [] := by
  cases call with
  | createApplication _ _ => rfl
  | createService _ _ => rfl
  | _ => cases created

/-- A call fails for the failure set for it, for what exists already, or for what is missing. -/
theorem verdict_eq_error_iff {memory : Memory} {call : Call} {error : Error} :
    memory.verdict call = .error error ↔ memory.Refuses call error := by
  have isSet : memory.fails call.name call.target = true ↔
      (call.name, call.target) ∈ memory.failures := List.contains_iff_mem
  -- The checks come in this order, so that each cause presupposes that the ones before do not hold.
  rw [verdict]
  constructor
  · intro refused
    split at refused
    next set =>
      cases refused
      exact .injected (isSet.mp set)
    next unset =>
      rw [isSet] at unset
      rw [Space.refusal?_eq, Space.conflict?, Space.lack?] at refused
      cases created : call.creates?.filter memory.space.has with
      | some entity =>
        simp only [created, Option.map_some, Option.some_or, Except.error.injEq] at refused
        obtain ⟨isCreated, held⟩ := Option.filter_eq_some_iff.mp created
        exact refused ▸ .exists unset isCreated held
      | none =>
        cases first : call.needs.find? (!memory.space.has ·) with
        | none => simp [created, first] at refused
        | some entity =>
          simp only [created, first, Option.map_none, Option.none_or, Option.map_some,
            Except.error.injEq] at refused
          exact refused ▸ .missing unset first
  · intro refused
    cases refused with
    | injected set => rw [if_pos (isSet.mpr set)]
    | «exists» unset created held =>
      rw [if_neg (isSet.not.mpr unset), Space.refusal?_eq, Space.conflict?, created,
        Option.filter_some_pos held]
      rfl
    | missing unset first =>
      -- What needs something creates nothing.
      have creates : call.creates? = none := by
        cases created : call.creates? with
        | none => rfl
        | some entity => simp [needs_of_creates created] at first
      rw [if_neg (isSet.not.mpr unset), Space.refusal?_eq, Space.conflict?, Space.lack?, creates,
        first]
      rfl

theorem yields_perform (memory : Memory) (call : Call) :
    Yields (platform.perform call) memory (memory.verdict call) (memory.next call) := by
  have traced := yields_task (fun memory => memory.step call) memory
  rwa [step_eq] at traced

/-- A single call is atomic: it is recorded once, and it takes effect or leaves the tree. -/
theorem atomic_next (memory : Memory) (call : Call) :
    memory.Atomic call (memory.verdict call) (memory.next call) where
  recorded := rfl
  failures := rfl
  refused _ := verdict_eq_error_iff
  -- A call that is refused has an error for its verdict, so that it was not accepted.
  untouched error refused := by
    have rejected : ¬ memory.accepts call = true := by
      rw [← verdict_eq_ok_iff, refused]
      exact fun same => nomatch same
    rw [next, if_neg rejected]
  effective succeeded := by
    have accepted := (verdict_eq_ok_iff memory call).mp succeeded
    have unrefused : memory.space.refusal? call = none := by
      rw [accepts, Bool.and_eq_true, Option.isNone_iff_eq_none] at accepted
      exact accepted.2
    rw [next, if_pos accepted, Space.after_eq, unrefused]

/-! ### One call after the other -/

theorem yields_performEach (memory : Memory) (calls : List Call) :
    ∃ results after, Yields (calls.mapM fun call => (platform.perform call).attempt) memory
        (.ok results) after ∧
      Transcript memory calls results after := by
  induction calls generalizing memory with
  | nil => exact ⟨[], memory, yields_pure _ _, .nil memory⟩
  | cons call rest ih =>
    -- The rest starts from the memory that the first call leaves, whatever it answers.
    obtain ⟨results, after, yields, transcript⟩ := ih (memory.next call)
    refine ⟨memory.verdict call :: results, after, ?_, .cons (atomic_next memory call) transcript⟩
    rw [List.mapM_cons]
    exact (yields_perform memory call).attempt.bind (yields.bind (yields_pure _ _))

section

variable {before after : Memory} {calls : List Call} {results : List (Except Error Unit)}

theorem Transcript.recorded (transcript : Transcript before calls results after) :
    after.calls = before.calls ++ calls.map Call.recorded := by
  induction transcript with
  | nil memory => simp
  | cons first _ ih => simp [ih, first.recorded]

theorem Transcript.failures (transcript : Transcript before calls results after) :
    after.failures = before.failures := by
  induction transcript with
  | nil memory => rfl
  | cons first _ ih => exact ih.trans first.failures

/-- The space after some calls is made by those that succeeded. -/
theorem Transcript.space (transcript : Transcript before calls results after) :
    (succeededCalls calls results).foldlM Space.after before.space = .ok after.space := by
  induction transcript with
  | nil memory => rfl
  | @cons before middle after call calls result results first _ ih =>
    cases result with
    | ok _ =>
      -- A call that succeeds comes first in the fold and leads to the space after it.
      have folded : succeededCalls (call :: calls) (.ok () :: results) =
          call :: succeededCalls calls results := rfl
      rw [folded, List.foldlM_cons, first.effective rfl]
      exact ih
    | error error =>
      have skipped : succeededCalls (call :: calls) (.error error :: results) =
          succeededCalls calls results := rfl
      rw [skipped, ← first.untouched error rfl]
      exact ih

end

end Memory

/-- Every call of a run leaves one record and keeps what is set to fail. It is refused for the
causes above and for no other, and then the space stays as it was, so that the space in the end is
made by the calls that succeeded. Fetching changes nothing. -/
theorem calls_atomic (memory : Memory) :
    (∀ calls, ∃ results after,
      Memory.run (calls.mapM fun call => (Memory.platform.perform call).attempt) memory =
        (.ok results, after) ∧
      Memory.Transcript memory calls results after ∧
      after.calls = memory.calls ++ calls.map Call.recorded ∧
      after.failures = memory.failures ∧
      (Memory.succeededCalls calls results).foldlM Space.after memory.space = .ok after.space) ∧
    (Memory.run Memory.platform.applications memory).2 = memory ∧
    (Memory.run Memory.platform.services memory).2 = memory ∧
    (Memory.run Memory.platform.developers memory).2 = memory := by
  refine ⟨fun calls => ?_, rfl, rfl, rfl⟩
  obtain ⟨results, after, yields, transcript⟩ := Memory.yields_performEach memory calls
  exact ⟨results, after, yields.run_eq, transcript, transcript.recorded, transcript.failures,
    transcript.space⟩

/-- A binding is refused for want of its service before its application is looked for, and a
creation that is set to fail is recorded and does nothing else. -/
example :
    let memory : Memory := { failures := [("create_service", "db")] }
    let calls : List Call := [.createService "db" ⟨"sql", "small", [], ∅⟩, .bindService "web" "db",
      .createApplication "web" {}, .createApplication "web" {}]
    Memory.run (calls.mapM fun call => (Memory.platform.perform call).attempt) memory =
      (.ok [.error (Memory.injected "create_service" "db"),
        .error (.platform (.notFound "service" "db")), .ok (),
        .error (.platform (.alreadyExists "application" "web"))],
        { memory with space := { applications := .ofList [("web", {})] }
                      calls := calls.map Call.recorded }) := by
  rfl

end CloudSpace
