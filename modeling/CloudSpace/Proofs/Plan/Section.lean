import CloudSpace.Proofs.Plan.Progress

/-!
# The next plan of a kind

Calls about one entity change nothing of the others, so that what is known of the next plan of
every entity adds up: the next plan of a kind is the part of the plan that was not made, in the
same order, and the same services are skipped.
-/
namespace CloudSpace.Plan

section

variable (ok : Call → Bool) (live desired : Space)

/-- The space once those calls of the plan for a kind were made that may be made. -/
def advance (kind : EntityKind) : Space :=
  ((calls kind live desired).filter ok).foldl Space.effect live

/-! ### Entities afterwards -/

theorem get?_applications_advance (name : String) :
    (advance ok live desired .applications).applications.get? name =
      ((applicationCalls name (live.applications.get? name)
        (desired.applications.get? name)).filter ok).foldl applicationEffect
          (live.applications.get? name) := by
  have keep : ∀ call ∈ (calls .applications live desired).filter ok, call.isRename = false :=
    ((separate_calls .applications live desired).filter ok).keep
  -- Of all the calls, those about the application are the calls of its own plan.
  have own : (calls .applications live desired).filter (·.target = name) =
      applicationCalls name (live.applications.get? name) (desired.applications.get? name) := by
    apply filter_flatMap_of_ascending Call.target (ascending_distinctSorted _)
      (fun name => target_applicationCalls name _ _)
    intro absent
    obtain ⟨unbound, unwanted⟩ := NameMap.get?_of_not_mem_names absent
    rw [unbound, unwanted]
    rfl
  rw [advance, Space.get?_applications_foldl_effect _ _ keep, List.filter_comm, own]

theorem get?_services_advance (name : String) :
    (advance ok live desired .services).services.get? name =
      ((serviceCalls name (live.services.get? name)
        (desired.services.get? name)).filter ok).foldl serviceEffect
          (live.services.get? name) := by
  have own : (calls .services live desired).filter (·.target = name) =
      serviceCalls name (live.services.get? name) (desired.services.get? name) := by
    apply filter_flatMap_of_ascending Call.target (ascending_distinctSorted _)
      (fun name => target_serviceCalls name _ _)
    intro absent
    obtain ⟨unbound, unwanted⟩ := NameMap.get?_of_not_mem_names absent
    rw [unbound, unwanted]
    rfl
  rw [advance, Space.get?_services_foldl_effect, List.filter_comm, own]

theorem developers_advance :
    (advance ok live desired .developers).developers =
      ((roleCalls live.developers desired.developers).filter ok).foldl developersEffect
        live.developers :=
  Space.developers_foldl_effect _ _

/-! ### The next plan -/

/-- Reading two maps name by name can go through any names that cover them. -/
theorem flatMap_names {α β : Type} {live desired : NameMap α} {names : List String}
    (f : String → Option α → Option α → List β) (nothing : ∀ name, f name none none = [])
    (ascending : names.Pairwise (· < ·))
    (covered : ∀ name, name ∉ names → live.get? name = none ∧ desired.get? name = none) :
    (live.names desired).flatMap (fun name => f name (live.get? name) (desired.get? name)) =
      names.flatMap fun name => f name (live.get? name) (desired.get? name) := by
  symm
  apply flatMap_of_ascending _ _ (ascending_distinctSorted _) ascending
  · intro name member
    by_contra absent
    obtain ⟨unbound, unwanted⟩ := covered name absent
    have bound := NameMap.mem_names.mp member
    rw [NameMap.mem_keys, NameMap.mem_keys, unbound, unwanted] at bound
    simp at bound
  · intro name _ absent
    obtain ⟨unbound, unwanted⟩ := NameMap.get?_of_not_mem_names absent
    rw [unbound, unwanted, nothing]

theorem calls_advance_applications :
    calls .applications (advance ok live desired .applications) desired =
      (calls .applications live desired).filter fun call => !ok call := by
  -- No call makes an application that was neither live nor desired before.
  have covered : ∀ name, name ∉ live.applications.names desired.applications →
      (advance ok live desired .applications).applications.get? name = none ∧
        desired.applications.get? name = none := by
    intro name absent
    obtain ⟨unbound, unwanted⟩ := NameMap.get?_of_not_mem_names absent
    rw [get?_applications_advance, unbound, unwanted]
    exact ⟨rfl, rfl⟩
  simp only [calls]
  rw [flatMap_names applicationCalls (fun _ => rfl) (ascending_distinctSorted _) covered,
    List.filter_flatMap]
  apply List.flatMap_congr
  intro name _
  rw [get?_applications_advance, applicationCalls_after]

/-- Planning again the services gives the calls that failed, and skips what was skipped. -/
theorem calls_advance_services :
    calls .services (advance ok live desired .services) desired =
        (calls .services live desired).filter (fun call => !ok call) ∧
      skips .services (advance ok live desired .services) desired =
        skips .services live desired := by
  -- A name that neither space knew is unknown after the calls as well.
  have covered : ∀ name, name ∉ live.services.names desired.services →
      (advance ok live desired .services).services.get? name = none ∧
        desired.services.get? name = none := by
    intro name absent
    obtain ⟨unbound, unwanted⟩ := NameMap.get?_of_not_mem_names absent
    rw [get?_services_advance, unbound, unwanted]
    exact ⟨rfl, rfl⟩
  constructor
  · simp only [calls]
    rw [flatMap_names serviceCalls (fun _ => rfl) (ascending_distinctSorted _) covered,
      List.filter_flatMap]
    apply List.flatMap_congr
    intro name _
    rw [get?_services_advance, (serviceCalls_after name ok _ _).1]
  · simp only [skips]
    rw [flatMap_names (fun name live desired => ((serviceRefusal? name live desired).map
        fun error => (⟨name, error.message⟩ : Skipped)).toList)
      (fun _ => rfl) (ascending_distinctSorted _) covered]
    apply List.flatMap_congr
    intro name _
    rw [get?_services_advance, (serviceCalls_after name ok _ _).2]

/-- The calls that were made are gone from the next plan for a kind, the others are left in
their order, and the same services are skipped. -/
theorem calls_advance (kind : EntityKind) :
    calls kind (advance ok live desired kind) desired =
        (calls kind live desired).filter (fun call => !ok call) ∧
      skips kind (advance ok live desired kind) desired = skips kind live desired := by
  cases kind with
  | applications => exact ⟨calls_advance_applications ok live desired, rfl⟩
  | services => exact calls_advance_services ok live desired
  | developers =>
    refine ⟨?_, rfl⟩
    simp only [calls]
    rw [developers_advance, roleCalls_after]

end

end CloudSpace.Plan
