import CloudSpace.Proofs.Platform.Effect
import Mathlib.Data.List.Perm.Basic

/-!
# Calls that do not depend on each other

Two calls of one kind are apart if they are about different entities, or about different parts
of the manifest of one application. Neither of two calls that are apart changes what becomes of
the other, and their effects commute up to the order of the lists that have no order: the
bindings of an application and the developers. Hence calls that are pairwise apart lead to one
space, whatever order they are made in.
-/
namespace CloudSpace

/-! ### Spaces up to the order of bindings and developers -/

/-- Manifests that differ in the order of their bindings at most. -/
structure Manifest.Alike (first second : Manifest) : Prop where
  others : { first with services := [] } = { second with services := [] }
  services : first.services.Perm second.services

structure Application.Alike (first second : Application) : Prop where
  path : first.path = second.path
  metadata : first.metadata = second.metadata
  manifest : first.manifest.Alike second.manifest

/-- Spaces that differ in the order of bindings and developers at most. -/
structure Space.Alike (first second : Space) : Prop where
  applications : ∀ name, Option.Rel Application.Alike (first.applications.get? name)
    (second.applications.get? name)
  services : first.services = second.services
  developers : first.developers.Perm second.developers

theorem Manifest.Alike.refl (manifest : Manifest) : manifest.Alike manifest := ⟨rfl, .refl _⟩

theorem Manifest.Alike.trans {first second third : Manifest} (left : first.Alike second)
    (right : second.Alike third) : first.Alike third :=
  ⟨left.others.trans right.others, left.services.trans right.services⟩

theorem Application.Alike.refl (app : Application) : app.Alike app := ⟨rfl, rfl, .refl _⟩

theorem Application.Alike.trans {first second third : Application} (left : first.Alike second)
    (right : second.Alike third) : first.Alike third :=
  ⟨left.path.trans right.path, left.metadata.trans right.metadata,
    left.manifest.trans right.manifest⟩

theorem alike_entry_refl (entry : Option Application) :
    Option.Rel Application.Alike entry entry := by
  cases entry with
  | none => exact .none
  | some app => exact .some (.refl app)

theorem alike_entry_trans {first second third : Option Application}
    (left : Option.Rel Application.Alike first second)
    (right : Option.Rel Application.Alike second third) :
    Option.Rel Application.Alike first third := by
  cases left with
  | none => exact right
  | some ab =>
    cases right with
    | some bc => exact .some (ab.trans bc)

theorem Space.Alike.refl (space : Space) : space.Alike space :=
  ⟨fun _ => alike_entry_refl _, rfl, .refl _⟩

theorem Space.Alike.trans {first second third : Space} (left : first.Alike second)
    (right : second.Alike third) : first.Alike third :=
  ⟨fun name => alike_entry_trans (left.applications name) (right.applications name),
    left.services.trans right.services, left.developers.trans right.developers⟩

/-! ### Effects on spaces that are alike -/

theorem perm_withElement {first second : List String} (perm : first.Perm second) (name : String) :
    (Space.withElement first name).Perm (Space.withElement second name) := by
  simp only [Space.withElement, List.contains_iff_mem, perm.mem_iff]
  split
  · exact perm
  · exact perm.append_right _

theorem perm_withoutElement {first second : List String} (perm : first.Perm second)
    (name : String) :
    (Space.withoutElement first name).Perm (Space.withoutElement second name) :=
  perm.filter _

/-- A call has like effects on manifests that are alike, as it looks at membership only. -/
theorem Manifest.Alike.effect {first second : Manifest} (alike : first.Alike second)
    (call : Call) : (first.effect call).Alike (second.effect call) := by
  -- Only bindings look at the list that may differ in order, and they read it as a set.
  obtain ⟨others, services⟩ := alike
  simp only [Manifest.mk.injEq] at others
  cases call with
  | bindService _ service =>
    exact ⟨by simp_all [Manifest.effect], perm_withElement services service⟩
  | unbindService _ service =>
    exact ⟨by simp_all [Manifest.effect], perm_withoutElement services service⟩
  | _ => exact ⟨by simp_all [Manifest.effect, Space.scaled], services⟩

/-- A call has like effects on applications that are alike. -/
theorem alike_applicationEffect {first second : Option Application}
    (alike : Option.Rel Application.Alike first second) (call : Call) :
    Option.Rel Application.Alike (applicationEffect first call)
      (applicationEffect second call) := by
  have updated : Option.Rel Application.Alike
      (first.map fun app => { app with manifest := app.manifest.effect call })
      (second.map fun app => { app with manifest := app.manifest.effect call }) := by
    cases alike with
    | none => exact .none
    | some apps => exact .some ⟨apps.path, apps.metadata, apps.manifest.effect call⟩
  cases call with
  | createApplication _ app => exact .some (.refl app)
  | deleteApplication _ => exact .none
  | renameApplication _ _ => exact .none
  | _ => exact updated

/-- A call has like effects on spaces that are alike. -/
theorem Space.Alike.effect {first second : Space} (alike : first.Alike second) (call : Call)
    (keeps : call.isRename = false) : (first.effect call).Alike (second.effect call) where
  applications name := by
    -- Both spaces have the same names, so that the call is on the application in both or in
    -- neither.
    rw [get?_applications_effect _ _ keeps, get?_applications_effect _ _ keeps]
    split
    · exact alike_applicationEffect (alike.applications name) call
    · exact alike.applications name
  services := by
    apply NameMap.ext_get?
    intro name
    rw [get?_services_effect, get?_services_effect, alike.services]
  developers := by
    rw [developers_effect, developers_effect]
    cases call with
    | grantDeveloper username => exact perm_withElement alike.developers username
    | revokeDeveloper username => exact perm_withoutElement alike.developers username
    | _ => exact alike.developers

/-! ### Calls that are apart -/

/-- The parts of a manifest that are changed separately. -/
inductive ManifestPart
  | sizes | healthCheck
  | variable (key : String)
  | binding (service : String)
deriving DecidableEq

/-- The part of the manifest of an existing application that a call changes. -/
def Call.part? : Call → Option ManifestPart
  | .scaleApplication .. => some .sizes
  | .setHealthCheck .. => some .healthCheck
  | .addEnvironmentVariable _ key _ => some (.variable key)
  | .removeEnvironmentVariable _ key => some (.variable key)
  | .bindService _ service => some (.binding service)
  | .unbindService _ service => some (.binding service)
  | _ => none

/-- Two calls about one entity change different parts of it. -/
def Call.Apart (first second : Call) : Prop :=
  first.target = second.target →
    ∃ part other, first.part? = some part ∧ second.part? = some other ∧ part ≠ other

/-- Being apart does not depend on which call is named first. -/
theorem Call.Apart.symm {first second : Call} (apart : first.Apart second) :
    second.Apart first := by
  intro same
  obtain ⟨part, other, isPart, isOther, distinct⟩ := apart same.symm
  exact ⟨other, part, isOther, isPart, distinct.symm⟩

/-- A list of calls of one kind that are pairwise apart. -/
structure Separate (kind : EntityKind) (calls : List Call) : Prop where
  kinds : ∀ call ∈ calls, call.kind = kind
  keep : ∀ call ∈ calls, call.isRename = false
  apart : calls.Pairwise Call.Apart

theorem Separate.nil (kind : EntityKind) : Separate kind [] := ⟨by simp, by simp, .nil⟩

/-- What is left of separate calls is separate. -/
theorem Separate.tail {kind : EntityKind} {call : Call} {calls : List Call}
    (separate : Separate kind (call :: calls)) : Separate kind calls :=
  ⟨fun other member => separate.kinds other (List.mem_cons_of_mem _ member),
    fun other member => separate.keep other (List.mem_cons_of_mem _ member),
    (List.pairwise_cons.mp separate.apart).2⟩

/-- Some of separate calls are separate. -/
theorem Separate.filter {kind : EntityKind} {calls : List Call} (separate : Separate kind calls)
    (keep : Call → Bool) : Separate kind (calls.filter keep) :=
  ⟨fun call member => separate.kinds call (List.mem_of_mem_filter member),
    fun call member => separate.keep call (List.mem_of_mem_filter member),
    separate.apart.filter _⟩

/-- Separate calls are so in any order. -/
theorem Separate.perm {kind : EntityKind} {calls order : List Call}
    (separate : Separate kind calls) (perm : order.Perm calls) : Separate kind order :=
  ⟨fun call member => separate.kinds call (perm.mem_iff.mp member),
    fun call member => separate.keep call (perm.mem_iff.mp member),
    (perm.pairwise_iff fun apart => Call.Apart.symm apart).mpr separate.apart⟩

/-! ### What becomes of a call -/

/-- A refusal depends on whether there are the entities that a call is about and no more. -/
theorem Space.refusal?_congr {first second : Space} (call : Call)
    (application : call.kind = .applications →
      first.applications.contains call.target = second.applications.contains call.target)
    (service : call.kind = .services →
      first.services.contains call.target = second.services.contains call.target)
    (bindable : call.kind = .applications →
      ∀ name, first.services.contains name = second.services.contains name) :
    first.refusal? call = second.refusal? call := by
  cases call <;> grind [refusal?, Call.kind, Call.target]

theorem isSome_applicationEffect {call : Call} {part : ManifestPart}
    (isPart : call.part? = some part) (entry : Option Application) :
    (applicationEffect entry call).isSome = entry.isSome := by
  cases call <;> simp_all [Call.part?, applicationEffect]

/-- No call is refused, or admitted, because of a call that it is apart from. -/
theorem Space.refusal?_effect (space : Space) {first second : Call}
    (sameKind : first.kind = second.kind) (keeps : first.isRename = false)
    (apart : first.Apart second) :
    (space.effect first).refusal? second = space.refusal? second := by
  apply refusal?_congr
  · intro _
    rw [NameMap.contains_eq_isSome, NameMap.contains_eq_isSome,
      get?_applications_effect space first keeps]
    split
    next same =>
      obtain ⟨part, _, isPart, _⟩ := apart same.symm
      exact isSome_applicationEffect isPart _
    next => rfl
  · intro isService
    rw [NameMap.contains_eq_isSome, NameMap.contains_eq_isSome, get?_services_effect]
    split
    next same =>
      -- Calls about services have no parts, so that two of them are never about one service.
      obtain ⟨_, other, _, isOther, _⟩ := apart same.symm
      cases second <;> simp_all [Call.kind, Call.part?]
    next => rfl
  · intro isApplication name
    have kept := restrict_effect space first .services (by simp [sameKind, isApplication])
    exact congrArg (fun restricted => restricted.services.contains name) kept

/-! ### Effects commute -/

theorem NameMap.insert_comm {α : Type} (map : NameMap α) {key other : String}
    (distinct : key ≠ other) (value held : α) :
    (map.insert key value).insert other held = (map.insert other held).insert key value := by
  apply ext_get?
  intro name
  simp only [get?_insert]
  split_ifs <;> simp_all

theorem NameMap.erase_insert_comm {α : Type} (map : NameMap α) {key other : String}
    (distinct : key ≠ other) (value : α) :
    (map.insert key value).erase other = (map.erase other).insert key value := by
  apply ext_get?
  intro name
  simp only [get?_insert, get?_erase]
  split_ifs <;> simp_all

theorem NameMap.erase_comm {α : Type} (map : NameMap α) (key other : String) :
    (map.erase key).erase other = (map.erase other).erase key := by
  apply ext_get?
  intro name
  simp only [get?_erase]
  split_ifs <;> rfl

theorem withElement_comm (names : List String) {first second : String}
    (distinct : first ≠ second) :
    (Space.withElement (Space.withElement names first) second).Perm
      (Space.withElement (Space.withElement names second) first) := by
  by_cases hasFirst : first ∈ names <;> by_cases hasSecond : second ∈ names <;>
    simp [Space.withElement, hasFirst, hasSecond, distinct, distinct.symm]
  exact (List.Perm.swap second first []).append_left names

theorem withoutElement_withElement_comm (names : List String) {first second : String}
    (distinct : first ≠ second) :
    Space.withoutElement (Space.withElement names first) second =
      Space.withElement (Space.withoutElement names second) first := by
  by_cases hasFirst : first ∈ names <;>
    simp [Space.withElement, Space.withoutElement, hasFirst, distinct]

theorem withoutElement_comm (names : List String) (first second : String) :
    Space.withoutElement (Space.withoutElement names first) second =
      Space.withoutElement (Space.withoutElement names second) first := by
  simp only [Space.withoutElement, List.filter_filter, Bool.and_comm]

/-- Changes of different parts of a manifest commute. -/
theorem Manifest.effect_comm (manifest : Manifest) {first second : Call}
    {part other : ManifestPart} (isPart : first.part? = some part)
    (isOther : second.part? = some other) (distinct : part ≠ other) :
    ((manifest.effect first).effect second).Alike ((manifest.effect second).effect first) := by
  have environment {left right : NameMap String} (equal : left = right) :
      Alike { manifest with environmentVariables := left }
        { manifest with environmentVariables := right } := equal ▸ .refl _
  have bindings {left right : List String} (perm : left.Perm right) :
      Alike { manifest with services := left } { manifest with services := right } := ⟨rfl, perm⟩
  have keys {key key' : String} (apart : ManifestPart.variable key ≠ .variable key') :
      key ≠ key' := fun same => apart (congrArg _ same)
  have names {name name' : String} (apart : ManifestPart.binding name ≠ .binding name') :
      name ≠ name' := fun same => apart (congrArg _ same)
  -- The parts are fields of their own, and changes of one field commute for the sake of its type.
  cases first <;> cases isPart <;> cases second <;> cases isOther
  case scaleApplication.refl.scaleApplication.refl => exact absurd rfl distinct
  case setHealthCheck.refl.setHealthCheck.refl => exact absurd rfl distinct
  case addEnvironmentVariable.refl.addEnvironmentVariable.refl =>
    exact environment (NameMap.insert_comm _ (keys distinct) _ _)
  case addEnvironmentVariable.refl.removeEnvironmentVariable.refl =>
    exact environment (NameMap.erase_insert_comm _ (keys distinct) _)
  case removeEnvironmentVariable.refl.addEnvironmentVariable.refl =>
    exact environment (NameMap.erase_insert_comm _ (keys distinct.symm) _).symm
  case removeEnvironmentVariable.refl.removeEnvironmentVariable.refl =>
    exact environment (NameMap.erase_comm _ _ _)
  case bindService.refl.bindService.refl =>
    exact bindings (withElement_comm _ (names distinct))
  case bindService.refl.unbindService.refl =>
    exact bindings (.of_eq (withoutElement_withElement_comm _ (names distinct)))
  case unbindService.refl.bindService.refl =>
    exact bindings (.of_eq (withoutElement_withElement_comm _ (names distinct.symm)).symm)
  case unbindService.refl.unbindService.refl =>
    exact bindings (.of_eq (withoutElement_comm _ _ _))
  all_goals exact .refl _

/-- Calls on different parts of an application take effect in either order. -/
theorem applicationEffect_comm (entry : Option Application) {first second : Call}
    {part other : ManifestPart} (isPart : first.part? = some part)
    (isOther : second.part? = some other) (distinct : part ≠ other) :
    Option.Rel Application.Alike (applicationEffect (applicationEffect entry first) second)
      (applicationEffect (applicationEffect entry second) first) := by
  have update {call : Call} {part : ManifestPart} (isPart : call.part? = some part)
      (entry : Option Application) : applicationEffect entry call =
        entry.map fun app => { app with manifest := app.manifest.effect call } := by
    cases call <;> cases isPart <;> rfl
  simp only [update isPart, update isOther, Option.map_map]
  cases entry with
  | none => exact .none
  | some app => exact .some ⟨rfl, rfl, app.manifest.effect_comm isPart isOther distinct⟩

/-- Roles are granted and revoked in either order, as they are of different users. -/
theorem developersEffect_comm (developers : List String) {first second : Call}
    (apart : first.Apart second) :
    (developersEffect (developersEffect developers first) second).Perm
      (developersEffect (developersEffect developers second) first) := by
  -- Calls on developers have no part, so that those that are apart have different targets.
  have distinct (isDeveloper : first.kind = .developers) : first.target ≠ second.target := by
    intro same
    obtain ⟨part, _, isPart, _⟩ := apart same
    cases first <;> cases isPart <;> cases isDeveloper
  cases first
  case grantDeveloper username =>
    cases second
    case grantDeveloper => exact withElement_comm _ (distinct rfl)
    case revokeDeveloper => exact .of_eq (withoutElement_withElement_comm _ (distinct rfl))
    all_goals exact .refl _
  case revokeDeveloper username =>
    cases second
    case grantDeveloper =>
      exact .of_eq (withoutElement_withElement_comm _ (distinct rfl).symm).symm
    case revokeDeveloper => exact .of_eq (withoutElement_comm _ _ _)
    all_goals exact .refl _
  all_goals exact .refl _

/-- Calls with one target that are apart are calls on an application, so that they leave all
services. -/
theorem serviceEffect_comm (entry : Option Service) {first second : Call}
    (apart : first.Apart second)
    (same : first.target = second.target) :
    serviceEffect (serviceEffect entry first) second =
      serviceEffect (serviceEffect entry second) first := by
  obtain ⟨part, other, isPart, isOther, _⟩ := apart same
  cases first <;> cases isPart <;> cases second <;> cases isOther <;> rfl

private theorem ite_comm_of_meet {α : Type} {r : α → α → Prop} (refl : ∀ a, r a a)
    (name first second : String) (f g : α → α) (a : α)
    (meet : name = first → name = second → r (g (f a)) (f (g a))) :
    r (if name = second then g (if name = first then f a else a)
        else if name = first then f a else a)
      (if name = first then f (if name = second then g a else a)
        else if name = second then g a else a) := by
  by_cases isFirst : name = first
  · by_cases isSecond : name = second
    · simpa only [if_pos isFirst, if_pos isSecond] using meet isFirst isSecond
    · simpa only [if_pos isFirst, if_neg isSecond] using refl _
  · simpa only [if_neg isFirst] using refl _

/-- The effects of calls that are apart commute. -/
theorem Space.effect_comm (space : Space) {first second : Call}
    (keepsFirst : first.isRename = false) (keepsSecond : second.isRename = false)
    (apart : first.Apart second) :
    ((space.effect first).effect second).Alike ((space.effect second).effect first) where
  applications name := by
    -- Wherever the two calls have different targets only one of them acts.
    simp only [get?_applications_effect _ _ keepsFirst, get?_applications_effect _ _ keepsSecond]
    apply ite_comm_of_meet alike_entry_refl name first.target second.target
      (applicationEffect · first) (applicationEffect · second)
    intro isFirst isSecond
    obtain ⟨_, _, isPart, isOther, distinct⟩ := apart (isFirst.symm.trans isSecond)
    exact applicationEffect_comm _ isPart isOther distinct
  services := by
    apply NameMap.ext_get?
    intro name
    simp only [get?_services_effect]
    apply ite_comm_of_meet (fun _ => rfl) name first.target second.target
      (serviceEffect · first) (serviceEffect · second)
    intro isFirst isSecond
    exact serviceEffect_comm _ apart (isFirst.symm.trans isSecond)
  developers := by
    simp only [developers_effect]
    exact developersEffect_comm _ apart

theorem Space.Alike.foldl_effect {calls : List Call} {first second : Space}
    (alike : first.Alike second) (keep : ∀ call ∈ calls, call.isRename = false) :
    (calls.foldl Space.effect first).Alike (calls.foldl Space.effect second) := by
  induction calls generalizing first second with
  | nil => exact alike
  | cons call rest ih =>
    exact ih (alike.effect call (keep call List.mem_cons_self))
      fun other member => keep other (List.mem_cons_of_mem _ member)

/-- Calls that are pairwise apart lead to one space in every order. -/
theorem Separate.alike_of_perm {kind : EntityKind} {calls order : List Call}
    (separate : Separate kind calls) (perm : calls.Perm order) {first second : Space}
    (alike : first.Alike second) :
    (calls.foldl Space.effect first).Alike (order.foldl Space.effect second) := by
  induction perm generalizing first second with
  | nil => exact alike
  | cons call _ ih =>
    exact ih separate.tail (alike.effect call (separate.keep call List.mem_cons_self))
  -- The two calls commute from the first space, and the rest is made from spaces that are alike.
  | swap call other rest =>
    have keeps := separate.keep other List.mem_cons_self
    have keepsCall := separate.keep call (List.mem_cons_of_mem _ List.mem_cons_self)
    have apart := (List.pairwise_cons.mp separate.apart).1 call List.mem_cons_self
    have swapped := (first.effect_comm keeps keepsCall apart).trans
      ((alike.effect call keepsCall).effect other keeps)
    exact swapped.foldl_effect separate.tail.tail.keep
  -- Being apart is symmetric, so that the order between the two is separate as well.
  | trans permLeft permRight left right =>
    exact (left separate alike).trans (right (separate.perm permLeft.symm) (.refl second))

end CloudSpace
