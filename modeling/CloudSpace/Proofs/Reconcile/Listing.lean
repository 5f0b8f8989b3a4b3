import CloudSpace.Proofs.Diff.Exact
import CloudSpace.Proofs.Reconcile.Preparation

/-!
# What plans of services and developers list

A service that is only desired is made, one that is only live is deleted, and one that is both is
left as it is, or skipped with the reason if its records differ. The developers are compared as
sets: those to come are granted the role, and then it is taken from those to go.
-/
namespace CloudSpace

/-- What a plan lists of the service with a name, and what it says to have skipped. -/
inductive ServiceListing (name : String) :
    Option Service → Option Service → List PlannedOperation → List Skipped → Prop
  | absent : ServiceListing name none none [] []
  | created (wanted : Service) : ServiceListing name none (some wanted)
      [⟨.services, name, .createService wanted.offering wanted.plan⟩] []
  | deleted (held : Service) : ServiceListing name (some held) none
      [⟨.services, name, .deleteService⟩] []
  | kept {held wanted : Service} (agrees : held.Agrees wanted) :
    ServiceListing name (some held) (some wanted) [] []
  | skipped {held wanted : Service} (differs : ¬ held.Agrees wanted) (first : Change)
      (isFirst : (Service.diff (.ofEntity .services name) held wanted).head? = some first) :
    ServiceListing name (some held) (some wanted) []
      [⟨name, (Error.plan (.unsupported .services name first.text)).message⟩]

namespace ServiceListing

variable {name : String} {live desired : Option Service} {operations : List PlannedOperation}
  {skips : List Skipped}

theorem keyed (listing : ServiceListing name live desired operations skips) :
    (∀ operation ∈ operations, operation.entity = name) ∧
      ∀ skipped ∈ skips, skipped.entity = name := by
  cases listing <;> simp

theorem single (listing : ServiceListing name live desired operations skips) :
    operations.length ≤ 1 ∧ skips.length ≤ 1 := by
  cases listing <;> simp

end ServiceListing

/-- A plan lists what becomes of each service, by name and once. -/
structure ListsServices (live desired : NameMap Service) (plan : PlanReport) : Prop where
  operations : plan.operations.Pairwise (·.entity < ·.entity)
  skipped : plan.skipped.Pairwise (·.entity < ·.entity)
  each : ∀ name, ServiceListing name (live.get? name) (desired.get? name)
    (plan.operations.filter (·.entity = name)) (plan.skipped.filter (·.entity = name))

/-- A plan lists the users to be granted the role, and then those to lose it. -/
def ListsDevelopers (live desired : List String) (plan : PlanReport) : Prop :=
  ∃ granted revoked,
    ListsExactly granted (fun user => user ∈ desired ∧ user ∉ live) ∧
    ListsExactly revoked (fun user => user ∈ live ∧ user ∉ desired) ∧
    plan.operations = granted.map (⟨.developers, "", .grantDeveloper ·⟩) ++
      revoked.map (⟨.developers, "", .revokeDeveloper ·⟩) ∧
    plan.skipped = []

namespace Plan

def serviceSkips (name : String) (live desired : Option Service) : List Skipped :=
  ((serviceRefusal? name live desired).map fun error => ⟨name, error.message⟩).toList

/-- What is planned of a service is what is listed of it. -/
theorem serviceListing (name : String) (live desired : Option Service) :
    ServiceListing name live desired ((serviceCalls name live desired).map Call.planned)
      (serviceSkips name live desired) := by
  cases live with
  | none =>
    cases desired with
    | none => exact .absent
    | some wanted => exact .created wanted
  | some held =>
    cases desired with
    | none => exact .deleted held
    | some wanted =>
      have agrees_iff : Service.diff (.ofEntity .services name) held wanted = [] ↔
        held.Agrees wanted := Service.schema.compare_eq_nil_iff
      -- A service is skipped with the first change that the differ finds, if it finds one.
      rw [serviceSkips, serviceRefusal?]
      cases changes : Service.diff (.ofEntity .services name) held wanted with
      | nil => exact .kept (agrees_iff.mp changes)
      | cons first rest =>
        have differs : ¬ held.Agrees wanted := by
          rw [← agrees_iff, changes]
          exact List.cons_ne_nil _ _
        exact .skipped differs first (by rw [changes]; rfl)

section

variable (live desired : NameMap Service)

/-- What a plan lists of the service with a name in two spaces. -/
def listedCalls (name : String) : List PlannedOperation :=
  (serviceCalls name (live.get? name) (desired.get? name)).map Call.planned

def listedSkips (name : String) : List Skipped :=
  serviceSkips name (live.get? name) (desired.get? name)

theorem listing (name : String) : ServiceListing name (live.get? name) (desired.get? name)
    (listedCalls live desired name) (listedSkips live desired name) :=
  serviceListing name _ _

/-- Listing services name by name lists all of them, in the order of their names. -/
theorem listsServices {plan : PlanReport}
    (operations : plan.operations = (live.names desired).flatMap (listedCalls live desired))
    (skipped : plan.skipped = (live.names desired).flatMap (listedSkips live desired)) :
    ListsServices live desired plan := by
  have ascending : (live.names desired).Pairwise (· < ·) := ascending_distinctSorted _
  -- A name that neither space has is not walked over, and there is nothing to list of it.
  have nothing (name : String) (absent : name ∉ live.names desired) :
      listedCalls live desired name = [] ∧ listedSkips live desired name = [] := by
    obtain ⟨unbound, unwanted⟩ := NameMap.get?_of_not_mem_names absent
    rw [listedCalls, listedSkips, unbound, unwanted]
    exact ⟨rfl, rfl⟩
  have keyedCalls (name : String) := (listing live desired name).keyed.1
  have keyedSkips (name : String) := (listing live desired name).keyed.2
  refine ⟨?_, ?_, fun name => ?_⟩
  · rw [operations]
    exact ascending_flatMap _ ascending keyedCalls fun name => (listing live desired name).single.1
  · rw [skipped]
    exact ascending_flatMap _ ascending keyedSkips fun name => (listing live desired name).single.2
  · rw [operations, skipped,
      filter_flatMap_of_ascending _ ascending keyedCalls name fun absent => (nothing name absent).1,
      filter_flatMap_of_ascending _ ascending keyedSkips name fun absent => (nothing name absent).2]
    exact listing live desired name

end

theorem listsDevelopers {live desired : List String} {plan : PlanReport}
    (operations : plan.operations = (roleCalls live desired).map Call.planned)
    (skipped : plan.skipped = []) : ListsDevelopers live desired plan := by
  refine ⟨_, _, listsExactly_added live desired, listsExactly_removed live desired, ?_, skipped⟩
  rw [operations, roleCalls, List.map_append, List.map_map, List.map_map]
  rfl

end Plan

theorem Memory.exists_plan {memory : Memory} {spec : Spec} {kind : EntityKind} {desired : Space}
    (present : spec.restrict? kind = some desired)
    (fetches : memory.fails (Memory.fetchName kind) "" = false)
    (named : memory.space.Named kind) (namedDesired : desired.Named kind) :
    ∃ plan, (Memory.run (Memory.platform.plan spec kind) memory).1 = .ok (some plan) ∧
      plan.operations = (Plan.calls kind memory.space spec.toSpace).map Call.planned ∧
      plan.skipped = Plan.skips kind memory.space spec.toSpace := by
  obtain ⟨found, prepared⟩ := Memory.exists_prepared present fetches named namedDesired
  obtain ⟨_, calls, skipped⟩ := Memory.calls_of_prepared prepared
  refine ⟨found.planned, ?_, ?_, skipped⟩
  · rw [Memory.run_plan]
    exact Memory.planned_eq_some_iff.mpr ⟨found, prepared, rfl⟩
  · rw [Preparation.planned, calls]

/-- The plan of the services makes what is only desired, deletes what is only live and skips what
differs; the plan of the developers grants those to come and revokes those to go. -/
theorem plan_lists (memory : Memory) (spec : Spec) :
    (∀ services, spec.services = some services → memory.fails "fetch_services" "" = false →
      "" ∉ memory.space.services.keys → "" ∉ services.keys →
      ∃ plan, (Memory.run (Memory.platform.plan spec .services) memory).1 = .ok (some plan) ∧
        ListsServices memory.space.services services plan) ∧
    ∀ users, spec.developers = some users → memory.fails "fetch_space_developers" "" = false →
      ∃ plan, (Memory.run (Memory.platform.plan spec .developers) memory).1 = .ok (some plan) ∧
        ListsDevelopers memory.space.developers users plan := by
  constructor
  -- The section of the spec is all that the plan of its kind is about.
  · intro services given fetches named namedDesired
    have present : spec.restrict? .services = some { services } := by
      rw [Spec.restrict?, given]
      rfl
    have desired : spec.toSpace.services = services := by
      rw [Spec.toSpace, given]
      rfl
    obtain ⟨plan, planned, operations, skipped⟩ :=
      Memory.exists_plan present fetches named namedDesired
    rw [Plan.calls, List.map_flatMap, desired] at operations
    rw [Plan.skips, desired] at skipped
    exact ⟨plan, planned, Plan.listsServices _ _ operations skipped⟩
  · intro users given fetches
    have present : spec.restrict? .developers = some { developers := users } := by
      rw [Spec.restrict?, given]
      rfl
    have desired : spec.toSpace.developers = users := by
      rw [Spec.toSpace, given]
      rfl
    obtain ⟨plan, planned, operations, skipped⟩ :=
      Memory.exists_plan present fetches trivial trivial
    rw [Plan.calls, desired] at operations
    exact ⟨plan, planned, Plan.listsDevelopers operations skipped⟩

/-- One service is made, one is deleted, one is skipped, and one has its tags in another order. -/
theorem plan_lists_mixed :
    let services : NameMap Service := .ofList [("cache", ⟨"redis", "small", [], ∅⟩),
      ("db", ⟨"sql", "large", [], ∅⟩), ("log", ⟨"syslog", "free", ["b", "a", "b"], ∅⟩)]
    let users := ["eve", "ann", "eve"]
    let spec : Spec := { services := some services, developers := some users }
    let memory : Memory := { space := {
      services := .ofList [("db", ⟨"sql", "small", [], ∅⟩),
        ("log", ⟨"syslog", "free", ["a", "b"], ∅⟩), ("old", ⟨"sql", "small", [], ∅⟩)]
      developers := ["bob", "ann", "bob"] } }
    (∃ plan, (Memory.run (Memory.platform.plan spec .services) memory).1 = .ok (some plan) ∧
      ListsServices memory.space.services services plan) ∧
    ∃ plan, (Memory.run (Memory.platform.plan spec .developers) memory).1 = .ok (some plan) ∧
      ListsDevelopers memory.space.developers users plan := by
  intro services users spec memory
  obtain ⟨ofServices, ofDevelopers⟩ := plan_lists memory spec
  exact ⟨ofServices services rfl (by decide +kernel) (by decide +kernel) (by decide +kernel),
    ofDevelopers users rfl (by decide +kernel)⟩

end CloudSpace
