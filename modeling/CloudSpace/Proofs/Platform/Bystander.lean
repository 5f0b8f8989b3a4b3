import CloudSpace.Proofs.Platform.Atomic

/-!
# What calls leave alone

A call is about one entity, and all other applications and services are the same after it as they
were before. There is one exception: creating looks at whether the name is taken and renaming does
not, so that an application is lost when another one is renamed to its name. Otherwise a renaming
moves a record, and only a deletion leaves less than there was.
-/
namespace CloudSpace

/-- Whether a call is about the entity of a kind with a name. -/
def Call.IsAbout (call : Call) (kind : EntityKind) (name : String) : Prop :=
  call.kind = kind ∧ call.target = name

def Call.isDeletion : Call → Bool
  | .deleteApplication _ | .deleteService _ => true
  | _ => false

namespace NameMap

variable {α : Type}

theorem contains_erase (map : NameMap α) (key other : String) :
    (map.erase key).contains other = (decide (other ≠ key) && map.contains other) := by
  rw [contains_eq_isSome, contains_eq_isSome, get?_erase]
  by_cases same : other = key <;> simp [same]

/-- An entry that is moved takes the place of the one that has the new name. -/
theorem size_move {map : NameMap α} {name : String} {value : α}
    (held : map.get? name = some value) (newName : String) :
    ((map.erase name).insert newName value).size +
      (if newName ≠ name ∧ map.contains newName then 1 else 0) = map.size := by
  have there : map.contains name = true := by
    rw [contains_eq_isSome, held]
    rfl
  have some : 0 < map.size := by
    rw [← length_keys]
    exact List.length_pos_of_mem (contains_iff_mem_keys.mp there)
  rw [size_insert, contains_erase, size_erase, if_pos there]
  -- One entry is taken away and one is added, unless the new name is that of an entry that stays.
  by_cases taken : newName ≠ name ∧ map.contains newName
  · rw [if_pos taken, if_pos (by simpa using taken)]
    omega
  · rw [if_neg taken, if_neg (by simpa using taken)]
    omega

end NameMap

namespace Space

/-! ### What a call may do -/

/-- A call destroys nothing that it is not about: the other applications and services are there
as before, a renaming moves a record, and only a deletion leaves fewer entities. -/
structure Spares (before : Space) (call : Call) (after : Space) : Prop where
  applications : ∀ name app, ¬ call.IsAbout .applications name →
    before.applications.get? name = some app → after.applications.get? name = some app
  services : ∀ name service, ¬ call.IsAbout .services name →
    before.services.get? name = some service → after.services.get? name = some service
  moved : ∀ name newName, call = .renameApplication name newName → ∃ app,
    before.applications.get? name = some app ∧ after.applications.get? newName = some app ∧
    (newName ≠ name → after.applications.get? name = none) ∧
    after.applications.size = before.applications.size
  fewer : after.applications.size < before.applications.size ∨
    after.services.size < before.services.size → call.isDeletion = true

/-- A call gives an application the name of another one. -/
def Displaces (space : Space) (call : Call) (name : String) : Prop :=
  ∃ source, call = .renameApplication source name ∧ name ≠ source ∧
    space.applications.contains name = true

variable {space : Space} {call : Call} {name : String}

/-! ### Other entities -/

theorem get?_applications_of_not_about (other : ¬ call.IsAbout .applications name)
    (unnamed : ∀ source, call ≠ .renameApplication source name) :
    (space.effect call).applications.get? name = space.applications.get? name := by
  by_cases ofKind : call.kind = .applications
  · have distinct : name ≠ call.target := fun same => other ⟨ofKind, same.symm⟩
    cases call with
    | renameApplication source newName =>
      -- The old name is the target, and the new one is not this name by assumption.
      have apart : name ≠ newName := fun same => unnamed source (same ▸ rfl)
      rw [Call.target] at distinct
      rw [effect]
      split
      · rw [NameMap.get?_insert, if_neg apart, NameMap.get?_erase, if_neg distinct]
      · rfl
    | _ => rw [get?_applications_effect _ _ rfl, if_neg distinct]
  -- A call of another kind leaves the whole section of applications as it is.
  · exact congrArg (fun space => space.applications.get? name)
      (restrict_effect space call .applications ofKind)

theorem get?_services_of_not_about (other : ¬ call.IsAbout .services name) :
    (space.effect call).services.get? name = space.services.get? name := by
  by_cases ofKind : call.kind = .services
  · rw [get?_services_effect, if_neg fun same => other ⟨ofKind, same.symm⟩]
  · exact congrArg (fun space => space.services.get? name)
      (restrict_effect space call .services ofKind)

/-! ### Numbers of entities -/

theorem effect_rename {newName : String} {app : Application}
    (held : space.applications.get? name = some app) :
    space.effect (.renameApplication name newName) =
      { space with applications := (space.applications.erase name).insert newName app } := by
  rw [effect, held]

theorem exists_of_accepted_rename {newName : String}
    (accepted : space.refusal? (.renameApplication name newName) = none) :
    ∃ app, space.applications.get? name = some app := by
  rw [← Option.isSome_iff_exists, ← NameMap.contains_eq_isSome]
  by_contra missing
  simp [refusal?, Call.target, missing] at accepted

theorem size_applications_rename {newName : String}
    (accepted : space.refusal? (.renameApplication name newName) = none) :
    (space.effect (.renameApplication name newName)).applications.size +
      (if newName ≠ name ∧ space.applications.contains newName then 1 else 0) =
        space.applications.size := by
  obtain ⟨app, held⟩ := exists_of_accepted_rename accepted
  rw [effect_rename held]
  exact NameMap.size_move held newName

/-- No call but deletions and such renamings makes applications fewer. -/
theorem size_applications_le (accepted : space.refusal? call = none)
    (keeps : call.isDeletion = false) (spares : ∀ name, ¬ space.Displaces call name) :
    space.applications.size ≤ (space.effect call).applications.size := by
  cases call with
  | createApplication name app =>
    rw [effect, NameMap.size_insert]
    split <;> omega
  | deleteApplication name => cases keeps
  | renameApplication name newName =>
    -- The new name is free, so that the record only moves.
    have moved := size_applications_rename accepted
    have free : ¬ (newName ≠ name ∧ space.applications.contains newName = true) :=
      fun taken => spares newName ⟨name, rfl, taken⟩
    rw [if_neg free] at moved
    exact Nat.le_of_eq moved.symm
  -- A call for another kind keeps the applications, and any other changes one of them in its place.
  | createService _ _ | deleteService _ | grantDeveloper _ | revokeDeveloper _ =>
    exact Nat.le_refl _
  | _ => exact Nat.le_of_eq (NameMap.size_modify ..).symm

theorem size_services_le (keeps : call.isDeletion = false) :
    space.services.size ≤ (space.effect call).services.size := by
  by_cases ofKind : call.kind = .services
  · cases call with
    | createService name service =>
      rw [effect, NameMap.size_insert]
      split <;> omega
    | deleteService name => cases keeps
    | _ => cases ofKind
  · have same := congrArg (·.services.size) (restrict_effect space call .services ofKind)
    exact Nat.le_of_eq same.symm

/-! ### Calls that are accepted -/

/-- An accepted call that takes no other application's name spares what it is not about. -/
theorem spares_effect (accepted : space.refusal? call = none)
    (spares : ∀ name, ¬ space.Displaces call name) :
    space.Spares call (space.effect call) where
  applications name app other held := by
    -- The name of an application that is there is not given to another one.
    have unnamed : ∀ source, call ≠ .renameApplication source name := by
      rintro source rfl
      refine spares name ⟨source, rfl, fun same => other ⟨rfl, same.symm⟩, ?_⟩
      rw [NameMap.contains_eq_isSome, held]
      rfl
    rw [get?_applications_of_not_about other unnamed, held]
  services name service other held := by rw [get?_services_of_not_about other, held]
  moved name newName same := by
    subst same
    obtain ⟨app, held⟩ := exists_of_accepted_rename accepted
    have sizes := size_applications_rename accepted
    rw [if_neg fun taken => spares newName ⟨name, rfl, taken⟩] at sizes
    refine ⟨app, held, ?_, fun distinct => ?_, sizes⟩
    · rw [effect_rename held, NameMap.get?_insert, if_pos rfl]
    · rw [effect_rename held, NameMap.get?_insert, if_neg distinct.symm, NameMap.get?_erase,
        if_pos rfl]
  -- A call that makes something fewer is a deletion: nothing else does.
  fewer less := by
    by_contra keeps
    rw [Bool.not_eq_true] at keeps
    have applications := size_applications_le accepted keeps spares
    have services : space.services.size ≤ (space.effect call).services.size :=
      size_services_le keeps
    omega

end Space

/-- A call that succeeds destroys no application and no service that it is not about, unless it
renames an application to the name of another one. That one is then lost, and nothing else is. -/
theorem spares_iff_not_displaces {memory after : Memory} {call : Call}
    (succeeds : Memory.run (Memory.platform.perform call) memory = (.ok (), after)) :
    (memory.space.Spares call after.space ↔ ∀ name, ¬ memory.space.Displaces call name) ∧
    ∀ lost, memory.space.Displaces call lost →
      after.space.applications.get? lost = memory.space.applications.get? call.target ∧
      (∀ name, name ≠ call.target → name ≠ lost →
        after.space.applications.get? name = memory.space.applications.get? name) ∧
      after.space.applications.size + 1 = memory.space.applications.size ∧
      after.space.services = memory.space.services := by
  rw [(Memory.yields_perform memory call).run_eq, Prod.mk.injEq, Memory.verdict_eq_ok_iff]
    at succeeds
  obtain ⟨accepts, rfl⟩ := succeeds
  have accepted : memory.space.refusal? call = none := by
    rw [Memory.accepts, Bool.and_eq_true, Option.isNone_iff_eq_none] at accepts
    exact accepts.2
  rw [Memory.next, if_pos accepts]
  dsimp only
  have displaced {lost : String} (displaces : memory.space.Displaces call lost) :
      (memory.space.effect call).applications.size + 1 = memory.space.applications.size := by
    obtain ⟨source, rfl, taken⟩ := displaces
    have sizes := Space.size_applications_rename accepted
    rwa [if_pos taken] at sizes
  refine ⟨⟨fun spares lost displaces => ?_, Space.spares_effect accepted⟩,
    fun lost displaces => ⟨?_, ?_, displaced displaces, ?_⟩⟩
  · -- With one application less the renaming has not only moved a record.
    have less := displaced displaces
    obtain ⟨source, same, -⟩ := displaces
    obtain ⟨_, -, -, -, sizes⟩ := spares.moved source lost same
    omega
  · obtain ⟨source, rfl, -⟩ := displaces
    obtain ⟨app, held⟩ := Space.exists_of_accepted_rename accepted
    rw [Space.effect_rename held, NameMap.get?_insert, if_pos rfl]
    exact held.symm
  -- No other name is the old or the new one, so that renaming is not about it.
  · intro name distinct other
    obtain ⟨source, rfl, -⟩ := displaces
    refine Space.get?_applications_of_not_about (fun about => distinct about.2.symm) ?_
    rintro _ ⟨⟩
    exact other rfl
  · obtain ⟨source, rfl, -⟩ := displaces
    obtain ⟨app, held⟩ := Space.exists_of_accepted_rename accepted
    rw [Space.effect_rename held]

/-- A name that is free can be given to an application, and nothing is lost. -/
theorem spares_iff_not_displaces_free :
    let memory : Memory := { space := {
      applications := .ofList [("api", { path := some "a" }), ("web", { path := some "w" })]
      services := .ofList [("site", ⟨"sql", "small", [], ∅⟩)] } }
    let call : Call := .renameApplication "web" "site"
    let after := (Memory.run (Memory.platform.perform call) memory).2
    Memory.run (Memory.platform.perform call) memory = (.ok (), after) ∧
      memory.space.Spares call after.space := by
  intro memory call after
  have succeeds : Memory.run (Memory.platform.perform call) memory = (.ok (), after) := rfl
  refine ⟨succeeds, (spares_iff_not_displaces succeeds).1.mpr ?_⟩
  rintro name ⟨source, same, -, taken⟩
  -- The new name is that of a service, which no application is displaced from.
  obtain ⟨-, rfl⟩ : "web" = source ∧ "site" = name := by simpa [call] using same
  revert taken
  decide

/-- An application that is renamed to the name of another one takes its place: the other record is
gone, and there is one application less. -/
theorem rename_displaces :
    let memory : Memory := { space := {
      applications := .ofList [("api", { path := some "a" }), ("web", { path := some "w" })] } }
    let call : Call := .renameApplication "web" "api"
    let after := (Memory.run (Memory.platform.perform call) memory).2
    (Memory.run (Memory.platform.perform call) memory).1 = .ok () ∧
      memory.space.applications.get? "api" = some { path := some "a" } ∧
      after.space.applications.get? "api" = some { path := some "w" } ∧
      after.space.applications.size < memory.space.applications.size ∧ call.isDeletion = false ∧
      ¬ memory.space.Spares call after.space := by
  intro memory call after
  refine ⟨rfl, rfl, rfl, by decide, rfl, fun spares => ?_⟩
  -- An application is lost although nothing was deleted, which a call that spares does not do.
  have less : after.space.applications.size < memory.space.applications.size := by decide
  exact absurd (spares.fewer (.inl less)) (by decide)

end CloudSpace
