import CloudSpace.Proofs.Reconcile.Preparation

/-!
# Sections that are not managed

Whatever is asked of a reconciler, and however often, it only touches the kinds whose sections
are present in the specs it is asked with: an absent section is not an empty one. Reading
touches nothing, and reconciling a kind touches that kind alone, also where it fails half way.
-/
namespace CloudSpace

/-! ### What is touched -/

/-- The kind of entity a recorded call is about. -/
def RecordedCall.kind? (recorded : RecordedCall) : Option EntityKind :=
  match recorded.name with
  | "create_application" | "delete_application" | "rename_application" | "scale_application"
  | "set_health_check" | "add_environment_variable" | "remove_environment_variable"
  | "bind_service" | "unbind_service" => some .applications
  | "create_service" | "delete_service" => some .services
  | "grant_space_developer" | "revoke_space_developer" => some .developers
  | _ => none

theorem kind?_recorded (call : Call) : call.recorded.kind? = some call.kind := by
  cases call <;> rfl

namespace Memory

/-- A state of the platform comes from an earlier one by calls of some kinds only. -/
structure Touches (touched : EntityKind → Prop) (before after : Memory) : Prop where
  sections : ∀ kind, ¬ touched kind → after.space.restrict kind = before.space.restrict kind
  calls : ∃ recorded, after.calls = before.calls ++ recorded ∧
    ∀ entry ∈ recorded, ∃ kind, touched kind ∧ entry.kind? = some kind

variable {touched more : EntityKind → Prop} {memory middle after : Memory} {spec : Spec}

theorem Touches.refl (touched : EntityKind → Prop) (memory : Memory) :
    memory.Touches touched memory :=
  ⟨fun _ _ => rfl, [], by simp, by simp⟩

theorem Touches.trans (first : memory.Touches touched middle)
    (second : middle.Touches touched after) : memory.Touches touched after := by
  obtain ⟨recorded, calls, kinds⟩ := first.calls
  obtain ⟨others, callsAfter, kindsAfter⟩ := second.calls
  refine ⟨fun kind untouched => ?_, recorded ++ others, ?_, ?_⟩
  · exact (second.sections kind untouched).trans (first.sections kind untouched)
  · rw [callsAfter, calls, List.append_assoc]
  · exact List.forall_mem_append.mpr ⟨kinds, kindsAfter⟩

theorem Touches.mono (touches : memory.Touches touched after)
    (included : ∀ kind, touched kind → more kind) : memory.Touches more after := by
  obtain ⟨recorded, calls, kinds⟩ := touches.calls
  refine ⟨fun kind untouched => touches.sections kind (mt (included kind) untouched),
    recorded, calls, ?_⟩
  intro entry member
  obtain ⟨kind, isTouched, isKind⟩ := kinds entry member
  exact ⟨kind, included kind isTouched, isKind⟩

/-! ### Runs -/

theorem touches_made (memory : Memory) {calls : List Call} {kind : EntityKind}
    (ofKind : ∀ call ∈ calls, call.kind = kind) :
    memory.Touches (· = kind) (memory.made calls) := by
  refine ⟨fun other distinct => ?_, calls.map Call.recorded, made_calls memory calls, ?_⟩
  · apply restrict_made
    intro call member same
    exact distinct (same.symm.trans (ofKind call member))
  · intro entry member
    obtain ⟨call, inside, rfl⟩ := List.mem_map.mp member
    exact ⟨kind, rfl, by rw [kind?_recorded, ofKind call inside]⟩

/-- A kind that is reconciled is touched only if its section is present. -/
theorem touches_applied (memory : Memory) (spec : Spec) (kind : EntityKind) :
    memory.Touches (fun other => other = kind ∧ spec.restrict? kind ≠ none)
      (memory.applied spec kind).2 := by
  -- Only a kind that was prepared makes calls, and all of them are calls of the kind.
  cases prepared : memory.prepared spec kind with
  | error error =>
    rw [applied, prepared]
    exact .refl _ _
  | ok found =>
    rw [applied_of_prepared prepared]
    cases found with
    | none => exact .refl _ _
    | some preparation =>
      have present : spec.restrict? kind ≠ none := by
        rw [ne_eq, ← eq_none_of_prepared prepared]
        simp
      exact (touches_made memory (kind_of_prepared prepared)).mono
        fun _ same => ⟨same, present⟩

/-- A run touches the sections that are in the spec. -/
theorem touches_appliedEach (memory : Memory) (spec : Spec) (kinds : List EntityKind) :
    memory.Touches (fun kind => spec.restrict? kind ≠ none)
      (memory.appliedEach spec kinds).2 := by
  induction kinds generalizing memory with
  | nil => exact .refl _ _
  | cons kind rest ih =>
    have head : memory.Touches (fun kind => spec.restrict? kind ≠ none)
        (memory.applied spec kind).2 :=
      (touches_applied memory spec kind).mono fun other ⟨same, present⟩ => same ▸ present
    -- A run that ends with an error keeps what it has done before.
    rw [appliedEach]
    cases applied : memory.applied spec kind with
    | mk result after =>
      rw [applied] at head
      cases result with
      | error error => exact head
      | ok report => exact head.trans (ih after)

end Memory

/-! ### Requests -/

/-- What a reconciler can be asked to do. -/
inductive Action
  | fetchLive
  | diff (kind : EntityKind)
  | plan (kind : EntityKind)
  | planAll
  | apply (kind : EntityKind)
  | applyAll

/-- An action under a spec. -/
structure Request where
  spec : Spec
  action : Action

namespace Memory

/-- The platform after a request, whatever its answer is. -/
def served (memory : Memory) (request : Request) : Memory :=
  match request with
  | ⟨_, .fetchLive⟩ => (run platform.fetchLive memory).2
  | ⟨spec, .diff kind⟩ => (run (platform.diff spec kind) memory).2
  | ⟨spec, .plan kind⟩ => (run (platform.plan spec kind) memory).2
  | ⟨spec, .planAll⟩ => (run (platform.planAll spec) memory).2
  | ⟨spec, .apply kind⟩ => (run (platform.apply spec kind) memory).2
  | ⟨spec, .applyAll⟩ => (run (platform.applyAll spec) memory).2

/-- The platform after some requests, one after the other. -/
def servedAll (memory : Memory) (requests : List Request) : Memory := requests.foldl served memory

theorem touches_served (memory : Memory) (request : Request) :
    memory.Touches (fun kind => request.spec.restrict? kind ≠ none) (memory.served request) := by
  obtain ⟨spec, action⟩ := request
  -- Four of the actions do no more than to look; the other two apply.
  cases action with
  | fetchLive => rw [served, run_fetchLive]; exact .refl _ _
  | diff kind => rw [served, run_diff]; exact .refl _ _
  | plan kind => rw [served, run_plan]; exact .refl _ _
  | planAll => rw [served, run_planAll]; exact .refl _ _
  | apply kind =>
    rw [served, run_apply]
    exact (touches_applied memory spec kind).mono fun other ⟨same, present⟩ => same ▸ present
  | applyAll =>
    rw [served, run_applyAll]
    exact touches_appliedEach memory spec _

theorem touches_servedAll (memory : Memory) (requests : List Request) :
    memory.Touches (fun kind => ∃ request ∈ requests, request.spec.restrict? kind ≠ none)
      (memory.servedAll requests) := by
  induction requests generalizing memory with
  | nil => exact .refl _ _
  | cons request rest ih =>
    have head := (touches_served memory request).mono
      fun _ present => (⟨request, List.mem_cons_self, present⟩ :
        ∃ other ∈ request :: rest, other.spec.restrict? _ ≠ none)
    refine head.trans ((ih (memory.served request)).mono ?_)
    rintro kind ⟨other, member, present⟩
    exact ⟨other, List.mem_cons_of_mem _ member, present⟩

end Memory

/-- Requests under specs without the section of a kind leave the live section as it is and
record no call about it, and reconciling a kind changes its own section at most and records
calls about it only. -/
theorem unmanaged_untouched (memory : Memory) :
    (∀ (kind : EntityKind) (requests : List Request),
      (∀ request ∈ requests, request.spec.restrict? kind = none) →
      (memory.servedAll requests).space.restrict kind = memory.space.restrict kind ∧
      ∃ recorded, (memory.servedAll requests).calls = memory.calls ++ recorded ∧
        ∀ entry ∈ recorded, entry.kind? ≠ some kind) ∧
    ∀ (spec : Spec) (kind : EntityKind),
      let after := (Memory.run (Memory.platform.apply spec kind) memory).2
      (∀ other, other ≠ kind → after.space.restrict other = memory.space.restrict other) ∧
      ∃ recorded, after.calls = memory.calls ++ recorded ∧
        ∀ entry ∈ recorded, entry.kind? = some kind := by
  constructor
  · intro kind requests absent
    -- None of the requests has the section in its spec.
    have untouched : ¬ ∃ request ∈ requests, request.spec.restrict? kind ≠ none := by
      rintro ⟨request, member, present⟩
      exact present (absent request member)
    obtain ⟨sections, recorded, calls, kinds⟩ := memory.touches_servedAll requests
    refine ⟨sections kind untouched, recorded, calls, ?_⟩
    intro entry member same
    obtain ⟨other, isTouched, isKind⟩ := kinds entry member
    have equal : other = kind := Option.some.inj (isKind.symm.trans same)
    exact untouched (equal ▸ isTouched)
  · intro spec kind after
    have isAfter : after = (memory.applied spec kind).2 :=
      congrArg Prod.snd (Memory.run_apply memory spec kind)
    obtain ⟨sections, recorded, calls, kinds⟩ := memory.touches_applied spec kind
    rw [isAfter]
    refine ⟨fun other distinct => sections other fun ⟨same, _⟩ => distinct same,
      recorded, calls, ?_⟩
    intro entry member
    obtain ⟨other, ⟨same, _⟩, isKind⟩ := kinds entry member
    exact same ▸ isKind

/-- Applications come and go in two runs with a reading in between, one call fails, and the
services, which neither spec mentions, stay. -/
theorem unmanaged_untouched_services :
    let memory : Memory := {
      space := { services := .ofList [("db", ⟨"sql", "small", [], ∅⟩)], developers := ["bob"] }
      failures := [("grant_space_developer", "ann")] }
    let requests : List Request := [
      ⟨{ applications := some (.ofList [("web", { manifest := { services := ["db"] } })]) },
        .applyAll⟩,
      ⟨{}, .fetchLive⟩,
      ⟨{ applications := some ∅, developers := some ["ann"] }, .applyAll⟩]
    (∀ request ∈ requests, request.spec.restrict? .services = none) ∧
    (memory.servedAll requests).calls.map (·.name) =
      ["create_application", "grant_space_developer", "revoke_space_developer",
        "delete_application"] ∧
    (memory.servedAll requests).space.restrict .services = memory.space.restrict .services ∧
    ∃ recorded, (memory.servedAll requests).calls = memory.calls ++ recorded ∧
      ∀ entry ∈ recorded, entry.kind? ≠ some .services := by
  intro memory requests
  have absent : ∀ request ∈ requests, request.spec.restrict? .services = none := by
    simp [requests, Spec.restrict?]
  exact ⟨absent, by decide +kernel, (unmanaged_untouched memory).1 .services requests absent⟩

end CloudSpace
