import CloudSpace.Proofs.Reconcile.Frame

/-!
# Runs that end with an error

A kind is fetched, compared and planned before the first of its calls is made, and making calls
never ends a run. So a kind that ends with an error has done nothing, and a run over all kinds that
ends with an error has reconciled the kinds before the one that caused it, whatever became of their
calls, and has not touched any other.
-/
namespace CloudSpace

namespace Memory

variable {memory after : Memory} {spec : Spec} {kind : EntityKind} {error : Error}

/-- Some kinds are reconciled one after the other, none of them with an error. -/
inductive Finishes (spec : Spec) : Memory → List EntityKind → Memory → Prop
  | nil (memory : Memory) : Finishes spec memory [] memory
  | cons {before middle after : Memory} {kind : EntityKind} {rest : List EntityKind}
    {report : Option RunReport}
    (ran : run (platform.apply spec kind) before = (.ok report, middle))
    (others : Finishes spec middle rest after) : Finishes spec before (kind :: rest) after

/-! ### One kind -/

theorem eq_of_applied_error (failed : memory.applied spec kind = (.error error, after)) :
    after = memory ∧ (spec.restrict? kind).isSome = true := by
  cases prepared : memory.prepared spec kind with
  -- Once a kind is prepared its calls are made, whatever becomes of them.
  | ok found => simp [applied_of_prepared prepared] at failed
  | error given =>
    rw [applied, prepared] at failed
    refine ⟨(Prod.mk.inj failed).2.symm, ?_⟩
    -- Nothing is fetched for a section that is absent.
    by_contra absent
    rw [Bool.not_eq_true, Option.isSome_eq_false_iff, Option.isNone_iff_eq_none] at absent
    simp [Memory.prepared, absent] at prepared

/-! ### Several kinds -/

/-- A run that ends with an error has finished the kinds before the one that the error is of. -/
theorem finishes_of_appliedEach_error {kinds : List EntityKind}
    (failed : memory.appliedEach spec kinds = (.error error, after)) :
    ∃ finished kind rest, kinds = finished ++ kind :: rest ∧
      Finishes spec memory finished after ∧ after.applied spec kind = (.error error, after) := by
  -- The kinds are reconciled in turn; the error is that of the first, or comes later.
  induction kinds generalizing memory with
  | nil => exact nomatch (Prod.mk.inj failed).1
  | cons first rest ih =>
    rw [appliedEach] at failed
    cases applied : memory.applied spec first with
    | mk result middle =>
      rw [applied] at failed
      cases result with
      | error given =>
        -- Nothing was finished, and the kind that failed has changed nothing.
        obtain ⟨rfl, rfl⟩ : given = error ∧ middle = after := by simpa using failed
        obtain ⟨rfl, -⟩ := eq_of_applied_error applied
        exact ⟨[], first, rest, rfl, .nil _, applied⟩
      | ok report =>
        -- The first kind is finished, so that the error is of one of the others.
        have others : middle.appliedEach spec rest = (.error error, after) := by
          cases ran : middle.appliedEach spec rest with
          | mk reports last => cases reports <;> simp_all [Except.map]
        obtain ⟨finished, kind, later, rfl, finishes, failedLater⟩ := ih others
        have ran : run (platform.apply spec first) memory = (.ok report, middle) :=
          (run_apply memory spec first).trans applied
        exact ⟨first :: finished, kind, later, rfl, .cons ran finishes, failedLater⟩

theorem Finishes.touches {kinds : List EntityKind} (finishes : Finishes spec memory kinds after) :
    memory.Touches (· ∈ kinds) after := by
  induction finishes with
  | nil memory => exact .refl _ memory
  | @cons before middle _ kind rest _ ran _ ih =>
    have head := touches_applied before spec kind
    rw [← run_apply, ran] at head
    refine (head.mono ?_).trans (ih.mono fun _ member => List.mem_cons_of_mem _ member)
    rintro other ⟨rfl, -⟩
    exact List.mem_cons_self

end Memory

/-- Reconciling one kind with an error changes nothing and makes no call. Reconciling all of them
with an error leaves what the kinds before the one that the error is of have done, and no call of
that kind or of a later one is made. -/
theorem failed_run_keeps_finished_kinds (memory : Memory) (spec : Spec) :
    (∀ kind error after,
      Memory.run (Memory.platform.apply spec kind) memory = (.error error, after) →
        after = memory) ∧
    ∀ error after, Memory.run (Memory.platform.applyAll spec) memory = (.error error, after) →
      ∃ finished kind rest, EntityKind.applyOrder = finished ++ kind :: rest ∧
        (spec.restrict? kind).isSome = true ∧
        Memory.Finishes spec memory finished after ∧
        Memory.run (Memory.platform.apply spec kind) after = (.error error, after) ∧
        (∃ recorded, after.calls = memory.calls ++ recorded ∧ ∀ entry ∈ recorded,
          ∃ earlier ∈ finished, earlier ∉ kind :: rest ∧ entry.kind? = some earlier) ∧
        ∀ later ∈ kind :: rest, after.space.restrict later = memory.space.restrict later := by
  simp only [Memory.run_apply, Memory.run_applyAll]
  refine ⟨fun kind error after failed => (Memory.eq_of_applied_error failed).1, ?_⟩
  intro error after failed
  obtain ⟨finished, kind, rest, order, finishes, failedKind⟩ :=
    Memory.finishes_of_appliedEach_error failed
  have distinct : (finished ++ kind :: rest).Nodup :=
    order ▸ (by decide : EntityKind.applyOrder.Nodup)
  have apart : ∀ earlier ∈ finished, earlier ∉ kind :: rest :=
    List.disjoint_of_nodup_append distinct
  -- The calls and the changes are of the finished kinds, and no kind comes twice in the order.
  obtain ⟨sections, recorded, calls, kinds⟩ := finishes.touches
  refine ⟨finished, kind, rest, order, (Memory.eq_of_applied_error failedKind).2, finishes,
    failedKind, ⟨recorded, calls, fun entry member => ?_⟩, fun later member => ?_⟩
  · obtain ⟨earlier, done, isKind⟩ := kinds entry member
    exact ⟨earlier, done, apart earlier done, isKind⟩
  · exact sections later fun done => apart later done member

/-- The role of a developer and a service are settled, the one with success and the other without,
before the applications turn out to be out of reach. -/
theorem failed_run_keeps_finished_kinds_before_applications :
    let memory : Memory := {
      space := { applications := .ofList [("old", {})] }
      failures := [("create_service", "db"), ("fetch_applications", "")] }
    let spec : Spec := {
      developers := some ["ann"]
      services := some (.ofList [("db", ⟨"sql", "small", [], ∅⟩)])
      applications := some (.ofList [("web", {})]) }
    let error : Error :=
      .fetch .applications (Memory.injected "fetch_applications" "")
    let after := (Memory.run (Memory.platform.applyAll spec) memory).2
    Memory.run (Memory.platform.apply spec .applications) memory = (.error error, memory) ∧
      Memory.run (Memory.platform.applyAll spec) memory = (.error error, after) ∧
      after.space = { memory.space with developers := ["ann"] } ∧
      after.calls.map (·.name) = ["grant_space_developer", "create_service"] ∧
      ∃ finished kind rest, EntityKind.applyOrder = finished ++ kind :: rest ∧
        Memory.Finishes spec memory finished after ∧
        Memory.run (Memory.platform.apply spec kind) after = (.error error, after) ∧
        ∀ later ∈ kind :: rest, after.space.restrict later = memory.space.restrict later := by
  intro memory spec error after
  have failedAlone : Memory.run (Memory.platform.apply spec .applications) memory =
      (.error error, (Memory.run (Memory.platform.apply spec .applications) memory).2) :=
    Prod.ext (by decide +kernel) rfl
  have failed : Memory.run (Memory.platform.applyAll spec) memory = (.error error, after) :=
    Prod.ext (by decide +kernel) rfl
  -- Alone, the failing kind leaves the memory as it is.
  have unchanged := (failed_run_keeps_finished_kinds memory spec).1 _ _ _ failedAlone
  obtain ⟨finished, kind, rest, order, -, finishes, failedKind, -, sections⟩ :=
    (failed_run_keeps_finished_kinds memory spec).2 error after failed
  refine ⟨failedAlone.trans (by rw [unchanged]), failed, ?_, ?_, finished, kind, rest, order,
    finishes, failedKind, sections⟩
  · decide +kernel
  · decide +kernel

end CloudSpace
