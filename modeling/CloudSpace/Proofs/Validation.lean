import CloudSpace.Proofs.NameMap
import CloudSpace.Validation

/-!
# Valid documents

A document has no problem exactly if every one of its records is valid on its own: names of
entities can be used as such, nothing that has to be given is blank, and no size is zero. Validity
is a property of what the document desires, so that it can be read without the list of problems.
-/
namespace CloudSpace

/-- A name that entities can have. -/
structure UsableName (name : String) : Prop where
  nonempty : name ≠ ""
  unspaced : ∀ char ∈ name.toList, Text.isBlank char = false

/-- A manifest in which nothing that is counted is zero. -/
structure Manifest.Positive (manifest : Manifest) : Prop where
  instances : manifest.instances ≠ some 0
  memory : manifest.memory ≠ some 0
  disk : manifest.disk ≠ some 0
  timeout : manifest.timeout ≠ some 0

structure Target.Valid (target : Target) : Prop where
  api : Text.isBlankText target.api = false
  organization : Text.isBlankText target.organization = false
  space : Text.isBlankText target.space = false

structure Service.Valid (name : String) (service : Service) : Prop where
  usable : UsableName name
  offering : Text.isBlankText service.offering = false
  plan : Text.isBlankText service.plan = false

structure Application.Valid (name : String) (app : Application) : Prop where
  usable : UsableName name
  positive : app.manifest.Positive

/-- A desired space whose entities are valid. -/
structure Space.Valid (space : Space) : Prop where
  developers : ∀ user ∈ space.developers, Text.isBlankText user = false
  services : ∀ name service, space.services.get? name = some service → service.Valid name
  applications : ∀ name app, space.applications.get? name = some app → app.Valid name

structure Document.Valid (document : Document) : Prop where
  target : ∀ target, document.target = some target → target.Valid
  space : document.spec.toSpace.Valid

/-! ### Records without a problem -/

theorem listIf_eq_nil_iff {α : Type} {condition : Bool} {entry : α} :
    listIf condition entry = [] ↔ condition = false := by
  cases condition <;> simp [listIf]

theorem isUsableName_iff {name : String} : isUsableName name = true ↔ UsableName name := by
  simp only [isUsableName, Bool.and_eq_true, Bool.not_eq_true', List.any_eq_false,
    Bool.not_eq_true]
  constructor
  · rintro ⟨nonempty, unspaced⟩
    exact ⟨by simpa using nonempty, unspaced⟩
  · rintro ⟨nonempty, unspaced⟩
    exact ⟨by simpa using nonempty, unspaced⟩

theorem Target.problems_eq_nil_iff {target : Target} : target.problems = [] ↔ target.Valid := by
  simp only [problems, List.append_eq_nil_iff, listIf_eq_nil_iff]
  constructor
  · rintro ⟨⟨api, organization⟩, space⟩
    exact ⟨api, organization, space⟩
  · rintro ⟨api, organization, space⟩
    exact ⟨⟨api, organization⟩, space⟩

theorem developerProblems_eq_nil_iff {developers : List String} :
    developerProblems developers = [] ↔ ∀ user ∈ developers, Text.isBlankText user = false := by
  simp only [developerProblems, List.flatMap_eq_nil_iff, listIf_eq_nil_iff]
  constructor
  · intro fine user member
    obtain ⟨index, found⟩ := List.mem_iff_getElem?.mp member
    exact fine (user, index) (List.mk_mem_zipIdx_iff_getElem?.mpr found)
  · intro fine entry member
    exact fine entry.1 (List.fst_mem_of_mem_zipIdx member)

/-- A service without problems has a usable name, an offering and a plan. -/
theorem Service.problems_eq_nil_iff {name : String} {service : Service} :
    service.problems name = [] ↔ service.Valid name := by
  simp only [problems, List.append_eq_nil_iff, listIf_eq_nil_iff, Bool.not_eq_false',
    isUsableName_iff]
  constructor
  · rintro ⟨⟨usable, offering⟩, plan⟩
    exact ⟨usable, offering, plan⟩
  · rintro ⟨usable, offering, plan⟩
    exact ⟨⟨usable, offering⟩, plan⟩

theorem Application.problems_eq_nil_iff {name : String} {app : Application} :
    app.problems name = [] ↔ app.Valid name := by
  simp only [problems, List.append_eq_nil_iff, listIf_eq_nil_iff, Bool.not_eq_false',
    decide_eq_false_iff_not, isUsableName_iff]
  constructor
  · rintro ⟨⟨⟨⟨usable, instances⟩, memory⟩, disk⟩, timeout⟩
    exact ⟨usable, instances, memory, disk, timeout⟩
  · rintro ⟨usable, instances, memory, disk, timeout⟩
    exact ⟨⟨⟨⟨usable, instances⟩, memory⟩, disk⟩, timeout⟩

/-! ### Documents without a problem -/

/-- The records of a section have no problem exactly if they are valid under their names. -/
theorem flatMap_entries_eq_nil_iff {α : Type} {map : NameMap α}
    {problems : String → α → List Problem} {Valid : String → α → Prop}
    (agree : ∀ name value, problems name value = [] ↔ Valid name value) :
    map.entries.flatMap (fun entry => problems entry.1 entry.2) = [] ↔
      ∀ name value, map.get? name = some value → Valid name value := by
  simp only [List.flatMap_eq_nil_iff, agree, NameMap.get?_eq_some_iff, Prod.forall]

/-- A document has no problems exactly if all its parts are valid. -/
theorem Document.problems_eq_nil_iff {document : Document} :
    document.problems = [] ↔ document.Valid := by
  have target : document.target.toList.flatMap Target.problems = [] ↔
      ∀ target, document.target = some target → target.Valid := by
    cases document.target <;> simp [Target.problems_eq_nil_iff]
  -- An absent section is read as an empty one, which has no problems either.
  have developers : document.spec.developers.toList.flatMap developerProblems = [] ↔
      ∀ user ∈ document.spec.toSpace.developers, Text.isBlankText user = false := by
    rw [Spec.toSpace]
    cases document.spec.developers <;> simp [developerProblems_eq_nil_iff]
  have services : (document.spec.services.getD ∅).entries.flatMap
      (fun entry => entry.2.problems entry.1) = [] ↔
        ∀ name service, document.spec.toSpace.services.get? name = some service →
          service.Valid name :=
    flatMap_entries_eq_nil_iff fun _ _ => Service.problems_eq_nil_iff
  have applications : (document.spec.applications.getD ∅).entries.flatMap
      (fun entry => entry.2.problems entry.1) = [] ↔
        ∀ name app, document.spec.toSpace.applications.get? name = some app → app.Valid name :=
    flatMap_entries_eq_nil_iff fun _ _ => Application.problems_eq_nil_iff
  rw [problems, List.append_eq_nil_iff, List.append_eq_nil_iff, List.append_eq_nil_iff, target,
    developers, services, applications]
  constructor
  · rintro ⟨⟨⟨validTarget, validDevelopers⟩, services⟩, applications⟩
    exact ⟨validTarget, validDevelopers, services, applications⟩
  · rintro ⟨validTarget, validDevelopers, services, applications⟩
    exact ⟨⟨⟨validTarget, validDevelopers⟩, services⟩, applications⟩

/-- A document is accepted exactly if it is valid. -/
theorem Document.validate_eq_ok_iff {document : Document} {cautions : List Caution} :
    document.validate = .ok cautions ↔ document.Valid ∧ cautions = document.cautions := by
  rw [← problems_eq_nil_iff, validate]
  cases document.problems with
  | nil => simp [eq_comm]
  | cons problem rest => simp

end CloudSpace
