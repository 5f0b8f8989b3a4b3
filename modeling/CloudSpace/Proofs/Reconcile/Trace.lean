import CloudSpace.Proofs.Platform.Run

/-!
# Reconciliation on the platform in memory

What the tasks of reconciliation come to, as functions on the state of the platform: what is
prepared for one kind, and what a run over several kinds leaves behind. Preparing changes
nothing, and a run is a preparation whose calls are made.
-/
namespace CloudSpace

namespace Memory

/-! ### One kind -/

/-- The name under which fetching a kind fails. -/
def fetchName : EntityKind → String
  | .applications => "fetch_applications"
  | .services => "fetch_services"
  | .developers => "fetch_space_developers"

/-- The live entities of one kind. -/
def fetched (memory : Memory) (kind : EntityKind) : Except Error Space :=
  if memory.fails (fetchName kind) "" then .error (.fetch kind (injected (fetchName kind) ""))
  else .ok (memory.space.restrict kind)

/-- The changes of one kind, by entity. -/
def grouped (memory : Memory) (kind : EntityKind) (desired : Space) :
    Except Error ChangeGroups :=
  match memory.fetched kind with
  | .error error => .error error
  | .ok live => ChangeGroups.build (live.diff desired)

/-- The live entities of every kind. -/
def fetchedLive (memory : Memory) : Except Error Space := do
  let applications := (← memory.fetched .applications).applications
  let services := (← memory.fetched .services).services
  let developers := (← memory.fetched .developers).developers
  return { applications, services, developers }

/-- The changes of one kind, if its section is present. -/
def compared (memory : Memory) (spec : Spec) (kind : EntityKind) :
    Except Error (Option (List Change)) :=
  match spec.restrict? kind with
  | none => .ok none
  | some desired => (memory.fetched kind).map fun live => some (live.diff desired)

/-- What there is to do about one kind, if its section is present. -/
def prepared (memory : Memory) (spec : Spec) (kind : EntityKind) :
    Except Error (Option Preparation) :=
  match spec.restrict? kind with
  | none => .ok none
  | some desired =>
    (memory.grouped kind desired).map fun groups => some
      { kind
        fingerprint := shortFingerprint desired.fingerprint
        changes := groups.count
        batch := Batch.of kind groups }

/-- What reconciling one kind reports and leaves behind. -/
def applied (memory : Memory) (spec : Spec) (kind : EntityKind) :
    Except Error (Option RunReport) × Memory :=
  match memory.prepared spec kind with
  | .error error => (.error error, memory)
  | .ok none => (.ok none, memory)
  | .ok (some preparation) =>
    (.ok (some (preparation.ran (memory.outcomes preparation.batch.calls))),
      memory.made preparation.batch.calls)

/-- Fetching a kind yields its section, or the error of a failure that was set. -/
theorem yields_fetch (memory : Memory) (kind : EntityKind) :
    Yields (platform.fetch kind) memory (memory.fetched kind) memory := by
  -- All three kinds are fetched alike, each with its own call.
  have wrapped (name : String) {α : Type} (part : Space → α) (whole : α → Space) :
      Yields (Task.wrapError (.fetch kind)
          (do return whole (← task fun memory => (memory.fetch name part, memory)))) memory
        (if memory.fails name "" then .error (.fetch kind (injected name ""))
          else .ok (whole (part memory.space))) memory := by
    have traced := ((yields_task (fun memory => (memory.fetch name part, memory))
      memory).map whole).wrapError (.fetch kind)
    simp only [fetch] at traced
    split at traced
    next failing => rw [if_pos failing]; exact traced
    next passing => rw [if_neg passing]; exact traced
  cases kind with
  | applications =>
    exact wrapped "fetch_applications" Space.applications fun applications => { applications }
  | services => exact wrapped "fetch_services" Space.services fun services => { services }
  | developers =>
    exact wrapped "fetch_space_developers" Space.developers fun developers => { developers }

/-- Fetching the space yields all sections, or the first error. -/
theorem yields_fetchLive (memory : Memory) :
    Yields platform.fetchLive memory memory.fetchedLive memory :=
  (yields_fetch memory .applications).bind_read fun _ =>
    (yields_fetch memory .services).bind_read fun _ =>
      (yields_fetch memory .developers).bind_read fun _ => yields_pure _ _

theorem yields_diff (memory : Memory) (spec : Spec) (kind : EntityKind) :
    Yields (platform.diff spec kind) memory (memory.compared spec kind) memory := by
  simp only [Platform.diff, compared]
  cases spec.restrict? kind with
  | none => exact yields_pure _ _
  | some desired => exact (yields_fetch memory kind).map fun live => some (live.diff desired)

/-- Grouping a kind yields the groups of its changes. -/
theorem yields_groups (memory : Memory) (kind : EntityKind) (desired : Space) :
    Yields (platform.groups kind desired) memory (memory.grouped kind desired) memory := by
  have fetching := yields_fetch memory kind
  simp only [grouped]
  -- Grouping needs the live entities first, and may then fail on its own.
  cases fetched : memory.fetched kind with
  | error error =>
    rw [fetched] at fetching
    exact fetching.bind_error
  | ok live =>
    rw [fetched] at fetching
    refine fetching.bind ?_
    dsimp only
    cases ChangeGroups.build (live.diff desired) with
    | error error => exact yields_throw error memory
    | ok groups => exact yields_pure groups memory

/-- Preparing a kind yields what is prepared of its section. -/
theorem yields_prepare (memory : Memory) (spec : Spec) (kind : EntityKind) :
    Yields (platform.prepare spec kind) memory (memory.prepared spec kind) memory := by
  simp only [Platform.prepare, prepared]
  -- An absent section is not fetched; otherwise there is nothing after grouping that can fail.
  cases spec.restrict? kind with
  | none => exact yields_pure _ _
  | some desired =>
    have grouping := yields_groups memory kind desired
    dsimp only
    cases grouped : memory.grouped kind desired with
    | error error =>
      rw [grouped] at grouping
      exact grouping.bind_error
    | ok groups =>
      rw [grouped] at grouping
      exact grouping.bind ((yields_warn _ _).bind (yields_pure _ _))

theorem yields_plan (memory : Memory) (spec : Spec) (kind : EntityKind) :
    Yields (platform.plan spec kind) memory
      ((memory.prepared spec kind).map (Option.map Preparation.planned)) memory :=
  (yields_prepare memory spec kind).map _

/-- Applying yields the report, after all calls have been made. -/
theorem yields_apply (memory : Memory) (spec : Spec) (kind : EntityKind) :
    Yields (platform.apply spec kind) memory (memory.applied spec kind).1
      (memory.applied spec kind).2 := by
  have preparing := yields_prepare memory spec kind
  simp only [applied]
  -- Once the kind is prepared, calls that fail are reported and do not end the task.
  cases prepared : memory.prepared spec kind with
  | error error =>
    rw [prepared] at preparing
    exact preparing.bind_error
  | ok found =>
    rw [prepared] at preparing
    refine preparing.bind ?_
    cases found with
    | none => exact yields_pure _ _
    | some preparation =>
      have carried := (yields_execute memory preparation.batch.calls).map preparation.ran
      exact carried.map some

/-! ### Several kinds -/

/-- What is reported of a dry run over some kinds. -/
def plannedEach (memory : Memory) (spec : Spec) : List EntityKind → Except Error (List PlanReport)
  | [] => .ok []
  | kind :: rest => do
    let found ← memory.prepared spec kind
    let reports ← memory.plannedEach spec rest
    return (found.map Preparation.planned).toList ++ reports

/-- What a run over some kinds reports and leaves behind. -/
def appliedEach (memory : Memory) (spec : Spec) :
    List EntityKind → Except Error (List RunReport) × Memory
  | [] => (.ok [], memory)
  | kind :: rest =>
    match memory.applied spec kind with
    | (.error error, after) => (.error error, after)
    | (.ok report, after) =>
      let (reports, last) := after.appliedEach spec rest
      (reports.map (report.toList ++ ·), last)

theorem filterMap_cons_toList {α : Type} (found : Option α) (others : List (Option α)) :
    (found :: others).filterMap id = found.toList ++ others.filterMap id := by
  cases found <;> rfl

/-- Planning several kinds yields the plans of those with a section. -/
theorem yields_planEach (memory : Memory) (spec : Spec) (kinds : List EntityKind) :
    Yields (platform.planEach spec kinds) memory (memory.plannedEach spec kinds) memory := by
  -- The plans of all kinds are made first, and absent ones are left out at the end.
  have traced : ∃ found, Yields (kinds.mapM (platform.plan spec)) memory found memory ∧
      memory.plannedEach spec kinds = found.map (List.filterMap id) := by
    induction kinds with
    | nil => exact ⟨_, yields_pure _ _, rfl⟩
    | cons kind rest ih =>
      obtain ⟨others, yields, same⟩ := ih
      have planning := yields_plan memory spec kind
      rw [List.mapM_cons, plannedEach, same]
      cases prepared : memory.prepared spec kind with
      | error error =>
        rw [prepared] at planning
        exact ⟨_, planning.bind_error, rfl⟩
      | ok found =>
        rw [prepared] at planning
        cases others with
        | error error => exact ⟨_, planning.bind yields.bind_error, rfl⟩
        | ok others =>
          exact ⟨_, planning.bind (yields.bind (yields_pure _ _)),
            congrArg Except.ok (filterMap_cons_toList _ _).symm⟩
  obtain ⟨found, yields, same⟩ := traced
  rw [same]
  exact yields.map _

/-- Applying several kinds yields their reports, each kind after the ones before it. -/
theorem yields_applyEach (memory : Memory) (spec : Spec) (kinds : List EntityKind) :
    Yields (do return (← kinds.mapM (platform.apply spec)).filterMap id) memory
      (memory.appliedEach spec kinds).1 (memory.appliedEach spec kinds).2 := by
  have traced : ∃ found, Yields (kinds.mapM (platform.apply spec)) memory found
        (memory.appliedEach spec kinds).2 ∧
      (memory.appliedEach spec kinds).1 = found.map (List.filterMap id) := by
    induction kinds generalizing memory with
    | nil => exact ⟨_, yields_pure _ _, rfl⟩
    | cons kind rest ih =>
      have applying := yields_apply memory spec kind
      rw [List.mapM_cons, appliedEach]
      cases applied : memory.applied spec kind with
      | mk result after =>
        rw [applied] at applying
        cases result with
        | error error => exact ⟨_, applying.bind_error, rfl⟩
        | ok report =>
          -- The kinds that follow run on the memory that the first one has left.
          obtain ⟨others, yields, same⟩ := ih after
          simp only [same]
          cases others with
          | error error => exact ⟨_, applying.bind yields.bind_error, rfl⟩
          | ok others =>
            exact ⟨_, applying.bind (yields.bind (yields_pure _ _)),
              congrArg Except.ok (filterMap_cons_toList _ _).symm⟩
  obtain ⟨found, yields, same⟩ := traced
  rw [same]
  exact yields.map _

/-- Running the fetch of a space leaves the memory. -/
theorem run_fetchLive (memory : Memory) :
    run platform.fetchLive memory = (memory.fetchedLive, memory) :=
  (yields_fetchLive memory).run_eq

theorem run_diff (memory : Memory) (spec : Spec) (kind : EntityKind) :
    run (platform.diff spec kind) memory = (memory.compared spec kind, memory) :=
  (yields_diff memory spec kind).run_eq

theorem run_plan (memory : Memory) (spec : Spec) (kind : EntityKind) :
    run (platform.plan spec kind) memory =
      ((memory.prepared spec kind).map (Option.map Preparation.planned), memory) :=
  (yields_plan memory spec kind).run_eq

theorem run_planAll (memory : Memory) (spec : Spec) :
    run (platform.planAll spec) memory =
      (memory.plannedEach spec EntityKind.applyOrder, memory) :=
  (yields_planEach memory spec _).run_eq

theorem run_applyAll (memory : Memory) (spec : Spec) :
    run (platform.applyAll spec) memory = memory.appliedEach spec EntityKind.applyOrder :=
  (yields_applyEach memory spec _).run_eq

theorem run_apply (memory : Memory) (spec : Spec) (kind : EntityKind) :
    run (platform.apply spec kind) memory = memory.applied spec kind :=
  (yields_apply memory spec kind).run_eq

theorem run_prepare (memory : Memory) (spec : Spec) (kind : EntityKind) :
    run (platform.prepare spec kind) memory = (memory.prepared spec kind, memory) :=
  (yields_prepare memory spec kind).run_eq

theorem run_execute (memory : Memory) (calls : List Call) :
    run (platform.execute calls) memory = (.ok (memory.outcomes calls), memory.made calls) :=
  (yields_execute memory calls).run_eq

end Memory

end CloudSpace
