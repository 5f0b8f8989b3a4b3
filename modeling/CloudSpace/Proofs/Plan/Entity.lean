import CloudSpace.Grouping
import CloudSpace.Plan.Entity
import CloudSpace.Proofs.Diff
import CloudSpace.Proofs.Plan.Application

/-!
# Plans from records

The planner reads changes, and the differ makes them of two records. Put together, the plan for
an entity is a function of what is live and what is desired under its name: an entity is made,
deleted or brought from one manifest to the other, and a service that differs is skipped.
-/
namespace CloudSpace.Plan

/-! ### The calls between two records -/

/-- The calls for what is live and what is desired under the name of an application. -/
def applicationCalls (name : String) : Option Application → Option Application → List Call
  | some live, some desired => manifestCalls name live.manifest desired.manifest
  | none, some desired => [.createApplication name desired]
  | some _, none => [.deleteApplication name]
  | none, none => []

/-- The calls for what is live and what is desired under the name of a service. -/
def serviceCalls (name : String) : Option Service → Option Service → List Call
  | none, some desired => [.createService name desired]
  | some _, none => [.deleteService name]
  | _, _ => []

/-- Why a service that differs cannot be brought to its desired record. -/
def serviceRefusal? (name : String) : Option Service → Option Service → Option Error
  | some live, some desired =>
    (Service.diff (.ofEntity .services name) live desired).head?.map fun first =>
      .plan (.unsupported .services name first.text)
  | _, _ => none

/-- The calls that make one list of developers the other. -/
def roleCalls (live desired : List String) : List Call :=
  (collectionDelta live desired).1.map .grantDeveloper ++
    (collectionDelta live desired).2.map .revokeDeveloper

/-! ### Transitions -/

section

variable {kind : EntityKind} {name : String}

private theorem isEmpty_of_ne (nonempty : name ≠ "") : name.isEmpty = false := by
  simpa using nonempty

theorem transition_created (nonempty : name ≠ "") (affected : Affected) :
    Transition.of kind name [⟨.ofEntity kind name, affected, .objectAdded⟩] =
      .ok (.create affected) := by
  have within := isWithin_ofEntity kind name affected .objectAdded name
  have root : (Path.ofEntity kind name).isEntityRoot = true := rfl
  simp [Transition.of, isEmpty_of_ne nonempty, within, root, Change.isObjectAdded,
    Change.isObjectRemoved]

theorem transition_deleted (nonempty : name ≠ "") (affected : Affected) :
    Transition.of kind name [⟨.ofEntity kind name, affected, .objectRemoved⟩] =
      .ok (.delete affected) := by
  have within := isWithin_ofEntity kind name affected .objectRemoved name
  have root : (Path.ofEntity kind name).isEntityRoot = true := rfl
  simp [Transition.of, isEmpty_of_ne nonempty, within, root, Change.isObjectAdded,
    Change.isObjectRemoved]

theorem transition_updated (nonempty : name ≠ "") {changes : List Change}
    (fields : FieldsOf (.ofEntity kind name) changes) :
    Transition.of kind name changes = .ok (.update changes) := by
  have own : changes.find? (fun change => !change.isWithin kind name) = none := by
    simpa using fun change member => (fields change member).isWithin
  have noAddition : changes.countP Change.isObjectAdded = 0 := by
    simpa using fun change member => (fields change member).noAddition
  have noRemoval : changes.countP Change.isObjectRemoved = 0 := by
    simpa using fun change member => (fields change member).noRemoval
  simp [Transition.of, isEmpty_of_ne nonempty, own, noAddition, noRemoval]

end

/-! ### The plans of the changes between two records -/

/-- The plan of the changes between two records has the calls between them. -/
theorem application_entityDiff {name : String} (nonempty : name ≠ "")
    (live desired : Option Application) :
    (application name (entityDiff .applications .application Application.diff name live
      desired)).calls = .ok (applicationCalls name live desired) := by
  cases live with
  | none =>
    cases desired with
    | none =>
      rw [application, entityDiff, transition_updated nonempty (.nil _)]
      rfl
    | some desired =>
      rw [application, entityDiff, transition_created nonempty]
      rfl
  | some live =>
    cases desired with
    | none =>
      rw [application, entityDiff, transition_deleted nonempty]
      rfl
    -- Both records are there, so that each field contributes what the two manifests differ in.
    | some desired =>
      have contributed := contributes_application name (.ofEntity .applications name) live desired
      rw [Contributes] at contributed
      rw [application, entityDiff,
        transition_updated nonempty (Application.fieldsOf_diff _ live desired)]
      simp only [updateApplication, contributed, callsOf_application, applicationCalls]

/-- A service that is there in both records is refused if anything differs. -/
theorem service_entityDiff {name : String} (nonempty : name ≠ "")
    (live desired : Option Service) :
    (service name (entityDiff .services .service Service.diff name live desired)).calls =
      match serviceRefusal? name live desired with
      | some error => .error error
      | none => .ok (serviceCalls name live desired) := by
  -- A service that is on one side only is created or deleted; one on both is refused or left.
  cases live with
  | none =>
    cases desired with
    | none =>
      rw [service, entityDiff, transition_updated nonempty (.nil _)]
      rfl
    | some desired =>
      rw [service, entityDiff, transition_created nonempty]
      rfl
  | some live =>
    cases desired with
    | none =>
      rw [service, entityDiff, transition_deleted nonempty]
      rfl
    | some desired =>
      rw [service, entityDiff,
        transition_updated nonempty (Service.fieldsOf_diff _ live desired), serviceRefusal?]
      cases Service.diff (.ofEntity .services name) live desired <;> rfl

/-- The developers have no change and no calls, or one change that makes the calls. -/
theorem developersDiff_cases (live desired : List String) :
    (developersDiff live desired = [] ∧ roleCalls live desired = []) ∨
      ∃ change, developersDiff live desired = [change] ∧
        ChangeGroups.build [change] = .ok { developers := some change } ∧
        (developers [change]).calls = .ok (roleCalls live desired) := by
  simp only [developersDiff]
  split
  next empty =>
    simp only [Bool.and_eq_true, List.isEmpty_iff] at empty
    exact .inl ⟨rfl, by rw [roleCalls, empty.1, empty.2]; rfl⟩
  next => exact .inr ⟨_, rfl, rfl, rfl⟩

/-! ### Without changes there is nothing to do -/

/-- Records that do not differ have no calls between them. -/
theorem applicationCalls_of_entityDiff {name : String} {live desired : Option Application}
    (same : entityDiff .applications .application Application.diff name live desired = []) :
    applicationCalls name live desired = [] := by
  cases live with
  | none =>
    cases desired with
    | none => rfl
    | some desired => simp [entityDiff] at same
  | some live =>
    cases desired with
    | none => simp [entityDiff] at same
    | some desired =>
      -- Without changes nothing is contributed, and calls are made of contributions only.
      have contributed := contributes_application name (.ofEntity .applications name) live desired
      have none : Application.diff (.ofEntity .applications name) live desired = [] := same
      rw [Contributes, none, contributions] at contributed
      rw [applicationCalls, ← callsOf_application name (.ofEntity .applications name),
        ← (Prod.mk.inj contributed).1]
      rfl

theorem serviceCalls_of_entityDiff {name : String} {live desired : Option Service}
    (same : entityDiff .services .service Service.diff name live desired = []) :
    serviceCalls name live desired = [] ∧ serviceRefusal? name live desired = none := by
  cases live with
  | none =>
    cases desired with
    | none => exact ⟨rfl, rfl⟩
    | some desired => simp [entityDiff] at same
  | some live =>
    cases desired with
    | none => simp [entityDiff] at same
    | some desired =>
      have none : Service.diff (.ofEntity .services name) live desired = [] := same
      simp [serviceCalls, serviceRefusal?, none]

end CloudSpace.Plan
