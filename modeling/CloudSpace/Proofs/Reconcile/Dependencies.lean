import CloudSpace.Proofs.Plan.Provenance
import CloudSpace.Proofs.Reconcile.Convergence
import CloudSpace.Proofs.Reconcile.Rerun

/-!
# Services before what is bound to them

A binding is the only call whose success depends on another kind: the service has to be there.
Services are reconciled before applications, so that by then the services are those of the
spec, and applications that are bound to nothing else are bound without a failure.
-/
namespace CloudSpace

open Plan

/-! ### Planned calls are accepted -/

namespace Memory

variable {memory : Memory} {desired : Space}

/-- Where no call is set to fail, every planned call is accepted, provided that there are the
services that the desired applications are bound to. -/
theorem accepts_calls (noFailures : memory.failures = []) {kind : EntityKind}
    (bindable : kind = .applications → ∀ name app, desired.applications.get? name = some app →
      ∀ service ∈ app.manifest.services, memory.space.services.contains service = true) :
    ∀ call ∈ Plan.calls kind memory.space desired, memory.accepts call = true := by
  intro call member
  have planned := planned_of_mem_calls member
  have nothingMissing : memory.space.missingService? call = none := by
    cases planned with
    | bindService _ wanted _ listed =>
      have isKind : kind = .applications := ((separate_calls kind _ _).kinds _ member).symm
      simp [Space.missingService?, bindable isKind _ _ wanted _ listed]
    | _ => rfl
  rw [accepts_eq noFailures, planned.refusal?_eq, nothingMissing]
  rfl

/-! ### Reports without a failure -/

variable {spec : Spec} {kind : EntityKind} {preparation : Preparation}

theorem space_applied (prepared : memory.prepared spec kind = .ok (some preparation)) :
    (memory.applied spec kind).2.space =
      advance memory.accepts memory.space spec.toSpace kind := by
  rw [applied_of_prepared prepared]
  exact made_space_of_prepared prepared

theorem allSucceeded_report (prepared : memory.prepared spec kind = .ok (some preparation))
    (accepted : ∀ call ∈ Plan.calls kind memory.space spec.toSpace, memory.accepts call = true) :
    (memory.report preparation).allSucceeded = true := by
  obtain ⟨_, planned, _⟩ := calls_of_prepared prepared
  rw [RunReport.allSucceeded, report, Preparation.ran, outcomes_of_prepared prepared, planned]
  simpa using accepted

theorem exists_prepared_of_named (noFailures : memory.failures = [])
    (present : (spec.restrict? kind).isSome = true) (named : memory.space.Named kind)
    (namedDesired : spec.toSpace.Named kind) :
    ∃ preparation, memory.prepared spec kind = .ok (some preparation) := by
  obtain ⟨desired, restricted⟩ := Option.isSome_iff_exists.mp present
  have fetches : memory.fails (fetchName kind) "" = false := by simp [fails, noFailures]
  have namedSection : desired.Named kind := by
    rw [Spec.eq_of_restrict? restricted]
    cases kind <;> exact namedDesired
  exact exists_prepared restricted fetches named namedSection

/-- Reconciling a kind whose calls are all accepted reports of the kind, if its section is
present, and without a failure. -/
theorem applied_succeeds (spec : Spec) (noFailures : memory.failures = [])
    (named : memory.space.Named kind) (namedDesired : spec.toSpace.Named kind)
    (accepted : ∀ call ∈ Plan.calls kind memory.space spec.toSpace, memory.accepts call = true) :
    ∃ report, (memory.applied spec kind).1 = .ok report ∧
      report.toList.map (·.kind) = [kind].filter (fun kind => (spec.restrict? kind).isSome) ∧
      ∀ one ∈ report.toList, one.allSucceeded = true := by
  -- A kind without a section has nothing to report, and succeeds at that.
  cases present : (spec.restrict? kind).isSome with
  | false =>
    have absent : spec.restrict? kind = none := by simpa using present
    have prepared : memory.prepared spec kind = .ok none := by rw [Memory.prepared, absent]
    exact ⟨none, by rw [applied_of_prepared prepared]; rfl, by simp [present], by simp⟩
  | true =>
    obtain ⟨preparation, prepared⟩ :=
      exists_prepared_of_named noFailures present named namedDesired
    have isKind : (memory.report preparation).kind = kind := (calls_of_prepared prepared).1
    refine ⟨some (memory.report preparation), by rw [applied_of_prepared prepared]; rfl, ?_, ?_⟩
    · simp [present, isKind]
    · simpa using allSucceeded_report prepared accepted

theorem appliedEach_cons_of_ok {report : Option RunReport} {rest : List EntityKind}
    (ran : (memory.applied spec kind).1 = .ok report) :
    memory.appliedEach spec (kind :: rest) =
      (((memory.applied spec kind).2.appliedEach spec rest).1.map (report.toList ++ ·),
        ((memory.applied spec kind).2.appliedEach spec rest).2) := by
  rw [appliedEach]
  cases applied : memory.applied spec kind with
  | mk result after =>
    rw [applied] at ran
    subst ran
    rfl

end Memory

/-! ### Services and bindings afterwards -/

theorem Space.named_congr {first second : Space} {kind : EntityKind}
    (same : first.restrict kind = second.restrict kind) :
    first.Named kind ↔ second.Named kind := by
  cases kind <;> simp_all [Space.restrict, Space.Named]

/-- The applications that are reached are bound to what they are desired to be bound to and to
nothing else. -/
theorem Space.ApplicationsReached.binding_desired {live desired after : Space}
    (reached : live.ApplicationsReached desired after) {name service : String}
    {app : Application} (found : after.applications.get? name = some app)
    (bound : service ∈ app.manifest.services) :
    ∃ wanted, desired.applications.get? name = some wanted ∧
      service ∈ wanted.manifest.services := by
  -- An application that is there afterwards is a desired one.
  have key : name ∈ desired.applications.keys := by
    rw [← reached.names, NameMap.mem_keys, found]
    rfl
  obtain ⟨wanted, isWanted⟩ := Option.isSome_iff_exists.mp (NameMap.mem_keys.mp key)
  refine ⟨wanted, isWanted, ?_⟩
  -- It was created with its bindings, or has been merged and has the desired ones.
  cases held : live.applications.get? name with
  | none =>
    have created := reached.created name wanted held isWanted
    rw [found] at created
    cases created
    exact bound
  | some before =>
    obtain ⟨result, isResult, merged⟩ := reached.merged name before wanted held isWanted
    rw [found] at isResult
    cases isResult
    exact ((merged.bindings service).mp bound).1

namespace Memory

variable {memory : Memory} {spec : Spec}

/-- Once services were reconciled, there are those of the spec. -/
theorem contains_applied_services {services : NameMap Service}
    (noFailures : memory.failures = []) (given : spec.services = some services)
    (named : memory.space.Named .services) (namedDesired : spec.toSpace.Named .services)
    (service : String) :
    (memory.applied spec .services).2.space.services.contains service =
      services.contains service := by
  have present : (spec.restrict? .services).isSome = true := by simp [Spec.restrict?, given]
  obtain ⟨preparation, prepared⟩ :=
    exists_prepared_of_named noFailures present named namedDesired
  have names : (memory.applied spec .services).2.space.services.keys = services.keys := by
    rw [space_applied prepared, (servicesReached noFailures spec.toSpace).names]
    simp [Spec.toSpace, given]
  apply Bool.eq_iff_iff.mpr
  rw [NameMap.contains_eq_isSome, NameMap.contains_eq_isSome, ← NameMap.mem_keys, names,
    NameMap.mem_keys]

/-- Once applications were reconciled, they are bound to services that the spec binds them to. -/
theorem bound_applied_applications {applications : NameMap Application}
    (noFailures : memory.failures = []) (given : spec.applications = some applications)
    (named : memory.space.Named .applications)
    (namedDesired : spec.toSpace.Named .applications) {name service : String}
    {app : Application}
    (found : (memory.applied spec .applications).2.space.applications.get? name = some app)
    (bound : service ∈ app.manifest.services) :
    ∃ wanted, applications.get? name = some wanted ∧ service ∈ wanted.manifest.services := by
  have present : (spec.restrict? .applications).isSome = true := by
    simp [Spec.restrict?, given]
  obtain ⟨preparation, prepared⟩ :=
    exists_prepared_of_named noFailures present named namedDesired
  rw [space_applied prepared] at found
  have desired := (applicationsReached noFailures spec.toSpace).binding_desired found bound
  simpa only [Spec.toSpace, given, Option.getD_some] using desired

end Memory

/-! ### The run -/

/-- Where no call is set to fail and no name is empty, a run under a spec with services and
applications, in which every application is bound to services of the spec, reports of every
section that is present and without a failure, and afterwards every application is bound to
services that there are. -/
theorem applyAll_binds (memory : Memory) (spec : Spec) {services : NameMap Service}
    {applications : NameMap Application} (noFailures : memory.failures = [])
    (hasServices : spec.services = some services)
    (hasApplications : spec.applications = some applications)
    (named : ∀ kind, memory.space.Named kind) (namedDesired : ∀ kind, spec.toSpace.Named kind)
    (declared : ∀ name app, applications.get? name = some app →
      ∀ service ∈ app.manifest.services, services.contains service = true) :
    ∃ reports after,
      Memory.run (Memory.platform.applyAll spec) memory = (.ok reports, after) ∧
      reports.map (·.kind) =
        EntityKind.applyOrder.filter (fun kind => (spec.restrict? kind).isSome) ∧
      (∀ report ∈ reports, report.allSucceeded = true) ∧
      ∀ name app, after.space.applications.get? name = some app →
        ∀ service ∈ app.manifest.services, after.space.services.contains service = true := by
  let first := (memory.applied spec .developers).2
  let second := (first.applied spec .services).2
  let third := (second.applied spec .applications).2
  have noFailuresFirst : first.failures = [] :=
    (Memory.failures_applied memory spec _).trans noFailures
  have noFailuresSecond : second.failures = [] :=
    (Memory.failures_applied first spec _).trans noFailuresFirst
  -- Each kind finds its own section as it was in the beginning.
  have namedFirst : first.space.Named .services :=
    (Space.named_congr (Memory.restrict_applied memory spec (by decide))).mpr (named _)
  have namedSecond : second.space.Named .applications :=
    (Space.named_congr ((Memory.restrict_applied first spec (by decide)).trans
      (Memory.restrict_applied memory spec (by decide)))).mpr (named _)
  -- When the applications are reconciled, the services are those of the spec.
  have serviceThere (service : String) :
      second.space.services.contains service = services.contains service :=
    Memory.contains_applied_services noFailuresFirst hasServices namedFirst (namedDesired _) service
  have bindable : ∀ name app, spec.toSpace.applications.get? name = some app →
      ∀ service ∈ app.manifest.services, second.space.services.contains service = true := by
    intro name app wanted service member
    simp only [Spec.toSpace, hasApplications, Option.getD_some] at wanted
    rw [serviceThere]
    exact declared name app wanted service member
  -- Developers, services and applications are gone through in this order, each with no failure.
  obtain ⟨developersReport, ranDevelopers, kindDevelopers, developersFine⟩ :=
    Memory.applied_succeeds spec noFailures (named .developers)
      (namedDesired _) (Memory.accepts_calls noFailures (by simp))
  obtain ⟨servicesReport, ranServices, kindServices, servicesFine⟩ :=
    Memory.applied_succeeds spec noFailuresFirst namedFirst (namedDesired _)
      (Memory.accepts_calls noFailuresFirst (by simp))
  obtain ⟨applicationsReport, ranApplications, kindApplications, applicationsFine⟩ :=
    Memory.applied_succeeds spec noFailuresSecond namedSecond (namedDesired _)
      (Memory.accepts_calls noFailuresSecond fun _ => bindable)
  refine ⟨developersReport.toList ++ (servicesReport.toList ++
    (applicationsReport.toList ++ [])), third, ?_, ?_, ?_, ?_⟩
  · rw [Memory.run_applyAll, EntityKind.applyOrder, Memory.appliedEach_cons_of_ok ranDevelopers,
      Memory.appliedEach_cons_of_ok ranServices, Memory.appliedEach_cons_of_ok ranApplications]
    rfl
  · simp only [List.map_append, kindDevelopers, kindServices, kindApplications,
      ← List.filter_append, List.append_nil]
    rfl
  · simp only [List.forall_mem_append, List.not_mem_nil, false_implies, implies_true, and_true]
    exact ⟨developersFine, servicesFine, applicationsFine⟩
  · intro name app found service bound
    obtain ⟨wanted, isWanted, member⟩ := Memory.bound_applied_applications noFailuresSecond
      hasApplications namedSecond (namedDesired _) found bound
    -- Reconciling applications leaves the services as they are.
    have kept : third.space.restrict .services = second.space.restrict .services :=
      Memory.restrict_applied second spec (by decide)
    have same : third.space.services = second.space.services :=
      congrArg (fun restricted => restricted.services) kept
    rw [same, serviceThere]
    exact declared name wanted isWanted service member

/-- An application is moved from a service that is deleted to one that is made and to one that is
skipped because its plan cannot be changed. -/
theorem applyAll_binds_beside_skipped :
    let live : Space := {
      applications := .ofList [("web", { manifest := { services := ["old"] } })]
      services := .ofList [("db", ⟨"sql", "small", [], ∅⟩), ("old", ⟨"sql", "small", [], ∅⟩)] }
    let services : NameMap Service :=
      .ofList [("cache", ⟨"redis", "small", [], ∅⟩), ("db", ⟨"sql", "large", [], ∅⟩)]
    let applications : NameMap Application :=
      .ofList [("web", { manifest := { services := ["cache", "db"] } })]
    let spec : Spec := { services := some services, applications := some applications }
    ∃ reports after,
      Memory.run (Memory.platform.applyAll spec) { space := live } = (.ok reports, after) ∧
      reports.flatMap (fun report => report.skipped.map (·.entity)) = ["db"] ∧
      reports.map (·.kind) =
        EntityKind.applyOrder.filter (fun kind => (spec.restrict? kind).isSome) ∧
      (∀ report ∈ reports, report.allSucceeded = true) ∧
      ∀ name app, after.space.applications.get? name = some app →
        ∀ service ∈ app.manifest.services, after.space.services.contains service = true := by
  intro live services applications spec
  -- No name in either space is empty.
  have named : ∀ kind, live.Named kind := by
    intro kind
    cases kind <;> decide +kernel
  have namedDesired : ∀ kind, spec.toSpace.Named kind := by
    intro kind
    cases kind <;> decide +kernel
  have declared : ∀ entry ∈ applications.entries, ∀ service ∈ entry.2.manifest.services,
      services.contains service = true := by decide +kernel
  obtain ⟨reports, after, ran, kinds, fine, bound⟩ :=
    applyAll_binds { space := live } spec rfl rfl rfl named namedDesired
      fun name app found => declared (name, app) (NameMap.get?_eq_some_iff.mp found)
  have skipped : ((Memory.run (Memory.platform.applyAll spec)
      { space := live }).1.toOption.getD []).flatMap
        (fun report => report.skipped.map (·.entity)) = ["db"] := by decide +kernel
  rw [ran] at skipped
  exact ⟨reports, after, ran, skipped, kinds, fine, bound⟩

end CloudSpace
