import CloudSpace.Proofs.Validation.Exact

/-!
# The cautions of a document

A document may hold something that will have no effect: a developer who is listed before, an
endpoint beside a health check that has none, a binding to a service that the document does not
declare, or nothing to manage at all. `Document.Warrants` says of each where it is, and the list of
cautions has just these, in the order in which they stand. They come with a valid document, and
never keep it from being valid.
-/
namespace CloudSpace

/-- Something in a document will have no effect. -/
inductive Document.Warrants (document : Document) : Caution → Prop
  | repeated {users : List String} {index earlier : Nat} {user : String}
      (given : document.spec.developers = some users) (has : users[index]? = some user)
      (before : earlier < index) (same : users[earlier]? = some user)
      (named : Text.isBlankText user = false) :
      Warrants document (.repeatedDeveloper index user)
  | endpoint {apps : NameMap Application} {name endpoint : String} {app : Application}
      {type : HealthCheckType}
      (given : document.spec.applications = some apps) (has : apps.get? name = some app)
      (set : app.manifest.healthCheckHttpEndpoint = some endpoint)
      (checked : app.manifest.healthCheckType = some type) (other : type ≠ .http) :
      Warrants document (.unusedEndpoint name)
  | undeclared {apps : NameMap Application} {services : NameMap Service} {name service : String}
      {app : Application} {index : Nat}
      (given : document.spec.applications = some apps) (has : apps.get? name = some app)
      (declared : document.spec.services = some services)
      (bound : app.manifest.services[index]? = some service)
      (missing : services.get? service = none) :
      Warrants document (.undeclaredService name index service)
  | unmanaged (developers : document.spec.developers = none)
      (services : document.spec.services = none)
      (applications : document.spec.applications = none) :
      Warrants document .nothingManaged

/-! ### Places -/

namespace Caution

/-- The place in the document. -/
def field : Caution → String
  | repeatedDeveloper index _ => s!"spec.spaceDevelopers[{index}]"
  | unusedEndpoint application => s!"spec.apps.{application}.manifest.healthCheckHttpEndpoint"
  | undeclaredService application index _ =>
    s!"spec.apps.{application}.manifest.services[{index}]"
  | nothingManaged => "spec"

def message : Caution → String
  | repeatedDeveloper _ name => s!"'{name}' is listed more than once"
  | unusedEndpoint _ => "ignored unless healthCheckType is http"
  | undeclaredService _ _ service => s!"'{service}' is not declared in spec.services"
  | nothingManaged => "no section present, nothing will be reconciled"

/-- A warning names the field, then says what is the matter. -/
theorem text_eq (caution : Caution) : caution.text = caution.field ++ ": " ++ caution.message := by
  -- The colon stands inside of a piece of each text, where it is cut out first.
  have listed : "]: '" = "]" ++ (": " ++ "'") := rfl
  have ignored : ".manifest.healthCheckHttpEndpoint: " =
      ".manifest.healthCheckHttpEndpoint" ++ ": " := rfl
  have bound : "]: " = "]" ++ ": " := rfl
  cases caution with
  | repeatedDeveloper index name =>
    dsimp only [text, field, message]
    generalize toString index = digits
    dsimp only [toString]
    simp only [listed, String.append_assoc]
  | unusedEndpoint application =>
    dsimp only [text, field, message, toString]
    simp only [ignored, String.append_assoc]
  | undeclaredService application index service =>
    dsimp only [text, field, message]
    generalize toString index = digits
    dsimp only [toString]
    simp only [bound, String.append_assoc]
  | nothingManaged => rfl

/-- What stands where a caution is: the text that has no effect, or a record without a field. -/
def ShownBy (caution : Caution) (place : Value) : Prop :=
  match caution with
  | repeatedDeveloper _ name => place = .text name
  | unusedEndpoint _ => ∃ endpoint, place = .text endpoint
  | undeclaredService _ _ service => place = .text service
  | nothingManaged => place = .record []

/-- Developers, applications and the document as a whole. -/
def part : Caution → Nat
  | repeatedDeveloper .. => 0
  | unusedEndpoint _ | undeclaredService .. => 1
  | nothingManaged => 2

/-- The name of the application. -/
def entity : Caution → String
  | unusedEndpoint application | undeclaredService application .. => application
  | repeatedDeveloper .. | nothingManaged => ""

/-- The position among the developers, or in the application, where bindings come last. -/
def position : Caution → Nat
  | repeatedDeveloper index _ => index
  | unusedEndpoint _ => 0
  | undeclaredService _ index _ => 1 + index
  | nothingManaged => 0

/-- One caution stands before another one: by section, then by name, then by position. -/
def Before (first second : Caution) : Prop :=
  first.part < second.part ∨ first.part = second.part ∧
    (first.entity < second.entity ∨ first.entity = second.entity ∧
      first.position < second.position)

theorem not_before_self (caution : Caution) : ¬ caution.Before caution := by
  simp [Before]

end Caution

namespace Document

variable {document : Document}

theorem leads_setting {apps : NameMap Application} {name setting : String} {app : Application}
    {content : Value} (given : document.spec.applications = some apps)
    (has : apps.get? name = some app) (set : (setting, content) ∈ app.manifest.fields) :
    document.toValue.Leads (s!"spec.apps.{name}" ++ (".manifest." ++ setting)) content := by
  have manifest : document.toValue.Leads s!"spec.apps.{name}.manifest" app.manifest.toValue :=
    (leads_application given has).within_eq "manifest" (by simp) String.append_assoc
  refine manifest.within_eq setting set ?_
  exact (congrArg (· ++ setting) String.append_assoc).trans String.append_assoc

/-- The field that is named for a caution leads to what has no effect. -/
theorem Warrants.leads {caution : Caution} (warranted : document.Warrants caution) :
    ∃ place, document.toValue.Leads caution.field place ∧ caution.ShownBy place := by
  cases warranted with
  | repeated given has before same named => exact ⟨_, leads_developer given has, rfl⟩
  | @endpoint apps name endpoint app type given has set checked other =>
    have isSet : ("healthCheckHttpEndpoint", .text endpoint) ∈ app.manifest.fields := by
      simp [Manifest.fields, Value.fieldOfText?, set]
    have leads : document.toValue.Leads s!"spec.apps.{name}.manifest.healthCheckHttpEndpoint"
        (.text endpoint) := leads_setting given has isSet
    exact ⟨_, leads, endpoint, rfl⟩
  | @undeclared apps services name service app index given has declared bound missing =>
    -- An empty list of bindings is left out, but this one has a member.
    have bindings : app.manifest.services ≠ [] := by
      rintro none
      simp [none] at bound
    have isSet : ("services", Value.ofTextList app.manifest.services) ∈ app.manifest.fields := by
      simp [Manifest.fields, Value.fieldOfTextList, bindings]
    have outer : document.toValue.Leads s!"spec.apps.{name}.manifest.services"
        (Value.ofTextList app.manifest.services) := leads_setting given has isSet
    have item : document.toValue.Leads
        (s!"spec.apps.{name}.manifest.services" ++ "[" ++ toString index ++ "]")
        (.text service) := outer.item (by simp [bound])
    have along : s!"spec.apps.{name}.manifest.services" ++ "[" =
        s!"spec.apps.{name}.manifest.services[" := String.append_assoc
    rw [along] at item
    exact ⟨_, item, rfl⟩
  | unmanaged developers services applications =>
    have nothing : document.spec.toValue = .record [] := by
      simp [Spec.toValue, developers, services, applications]
    exact ⟨_, leads_spec, nothing⟩

end Document

/-! ### What is listed -/

theorem mem_take_iff_getElem? {α : Type} {items : List α} {item : α} {count : Nat} :
    item ∈ items.take count ↔ ∃ earlier < count, items[earlier]? = some item := by
  simp only [List.mem_iff_getElem?, List.getElem?_take, Option.ite_none_right_eq_some]

theorem mem_developerCautions {users : List String} {caution : Caution} :
    caution ∈ developerCautions users ↔ ∃ index earlier user, users[index]? = some user ∧
      earlier < index ∧ users[earlier]? = some user ∧ Text.isBlankText user = false ∧
      caution = .repeatedDeveloper index user := by
  simp only [developerCautions, List.mem_flatMap, Prod.exists, List.mk_mem_zipIdx_iff_getElem?,
    mem_listIf, Bool.and_eq_true, Bool.not_eq_true', List.contains_iff_mem,
    mem_take_iff_getElem?]
  constructor
  · rintro ⟨user, index, has, ⟨named, earlier, before, same⟩, rfl⟩
    exact ⟨index, earlier, user, has, before, same, named, rfl⟩
  · rintro ⟨index, earlier, user, has, before, same, named, rfl⟩
    exact ⟨user, index, has, ⟨named, earlier, before, same⟩, rfl⟩

/-- An application is warned of for its endpoint or for a service that is not declared. -/
theorem Application.mem_cautions {services : Option (NameMap Service)} {name : String}
    {app : Application} {caution : Caution} :
    caution ∈ app.cautions services name ↔
      (∃ endpoint type, app.manifest.healthCheckHttpEndpoint = some endpoint ∧
        app.manifest.healthCheckType = some type ∧ type ≠ .http ∧
        caution = .unusedEndpoint name) ∨
      ∃ declared index service, services = some declared ∧
        app.manifest.services[index]? = some service ∧ declared.get? service = none ∧
        caution = .undeclaredService name index service := by
  -- The endpoint is looked at only where a type is given.
  have unused : caution ∈ listIf (app.manifest.healthCheckHttpEndpoint.isSome &&
      app.manifest.healthCheckType.any (· != .http)) (.unusedEndpoint name) ↔
      ∃ endpoint type, app.manifest.healthCheckHttpEndpoint = some endpoint ∧
        app.manifest.healthCheckType = some type ∧ type ≠ .http ∧
        caution = .unusedEndpoint name := by
    rw [mem_listIf]
    cases app.manifest.healthCheckHttpEndpoint <;> cases app.manifest.healthCheckType <;> simp
  rw [cautions, List.mem_append, unused]
  refine or_congr Iff.rfl ?_
  -- The index of a binding is found in the list, the service is looked up among the declared.
  simp only [List.mem_flatMap, Option.mem_toList, Prod.exists, List.mk_mem_zipIdx_iff_getElem?,
    mem_listIf, Bool.not_eq_true', NameMap.contains_eq_isSome, Option.isSome_eq_false_iff,
    Option.isNone_iff_eq_none]
  constructor
  · rintro ⟨declared, given, service, index, bound, missing, rfl⟩
    exact ⟨declared, index, service, given, bound, missing, rfl⟩
  · rintro ⟨declared, index, service, given, bound, missing, rfl⟩
    exact ⟨declared, given, service, index, bound, missing, rfl⟩

namespace Document

theorem mem_cautions {document : Document} {caution : Caution} :
    caution ∈ document.cautions ↔
      (∃ users, document.spec.developers = some users ∧ caution ∈ developerCautions users) ∨
      (∃ apps name app, document.spec.applications = some apps ∧ apps.get? name = some app ∧
        caution ∈ app.cautions document.spec.services name) ∨
      document.spec.isEmpty = true ∧ caution = .nothingManaged := by
  rw [cautions, List.mem_append, List.mem_append, mem_listIf, or_assoc,
    mem_section_iff fun name app => Application.cautions document.spec.services name app]
  simp only [List.mem_flatMap, Option.mem_toList]

/-- The document is warned of exactly what warrants it. -/
theorem mem_cautions_iff_warrants {document : Document} {caution : Caution} :
    caution ∈ document.cautions ↔ document.Warrants caution := by
  have unmanaged : document.spec.isEmpty = true ↔ document.spec.developers = none ∧
      document.spec.services = none ∧ document.spec.applications = none := by
    simp [Spec.isEmpty, and_assoc]
  rw [mem_cautions, unmanaged]
  constructor
  -- Each warning that is listed comes from one of the rules, and each rule lists its warning.
  · rintro (⟨users, given, listed⟩ | ⟨apps, name, app, given, has, listed⟩ | ⟨absent, rfl⟩)
    · obtain ⟨index, earlier, user, has, before, same, named, rfl⟩ :=
        mem_developerCautions.mp listed
      exact .repeated given has before same named
    · rcases Application.mem_cautions.mp listed with ⟨endpoint, type, set, checked, other, rfl⟩ |
        ⟨services, index, service, declared, bound, missing, rfl⟩
      · exact .endpoint given has set checked other
      · exact .undeclared given has declared bound missing
    · exact .unmanaged absent.1 absent.2.1 absent.2.2
  · intro warranted
    cases warranted with
    | repeated given has before same named =>
      exact .inl ⟨_, given, mem_developerCautions.mpr ⟨_, _, _, has, before, same, named, rfl⟩⟩
    | endpoint given has set checked other =>
      refine .inr (.inl ⟨_, _, _, given, has, Application.mem_cautions.mpr ?_⟩)
      exact .inl ⟨_, _, set, checked, other, rfl⟩
    | undeclared given has declared bound missing =>
      refine .inr (.inl ⟨_, _, _, given, has, Application.mem_cautions.mpr ?_⟩)
      exact .inr ⟨_, _, _, declared, bound, missing, rfl⟩
    | unmanaged developers services applications =>
      exact .inr (.inr ⟨⟨developers, services, applications⟩, rfl⟩)

end Document

/-! ### The order of the list -/

theorem pairwise_developerCautions (users : List String) :
    (developerCautions users).Pairwise Caution.Before := by
  have all : (developerCautions users).Sublist
      (users.zipIdx.map fun entry => Caution.repeatedDeveloper entry.2 entry.1) :=
    flatMap_listIf_sublist _ _ _
  refine .sublist all ?_
  rw [List.pairwise_map]
  exact (pairwise_zipIdx users).imp fun less => .inr ⟨rfl, .inr ⟨rfl, less⟩⟩

theorem Application.pairwise_cautions (services : Option (NameMap Service)) (name : String)
    (app : Application) : (app.cautions services name).Pairwise Caution.Before := by
  have bindings : (services.toList.flatMap fun declared =>
      app.manifest.services.zipIdx.flatMap fun entry =>
        listIf (!declared.contains entry.1)
          (Caution.undeclaredService name entry.2 entry.1)).Pairwise Caution.Before := by
    cases services with
    | none => exact .nil
    | some declared =>
      simp only [Option.toList_some, List.flatMap_singleton]
      refine .sublist (flatMap_listIf_sublist _ _ _) ?_
      rw [List.pairwise_map]
      refine (pairwise_zipIdx _).imp fun less => .inr ⟨rfl, .inr ⟨rfl, ?_⟩⟩
      exact Nat.add_lt_add_left less 1
  refine List.pairwise_append.mpr ⟨.sublist (listIf_sublist _ _) (List.pairwise_singleton _ _),
    bindings, fun first isFirst second isSecond => ?_⟩
  -- The endpoint comes before all bindings.
  obtain ⟨-, rfl⟩ := mem_listIf.mp isFirst
  simp only [List.mem_flatMap, mem_listIf] at isSecond
  obtain ⟨_, _, _, _, _, rfl⟩ := isSecond
  exact .inr ⟨rfl, .inr ⟨rfl, Nat.lt_add_right _ Nat.zero_lt_one⟩⟩

theorem Application.place_of_mem_cautions {services : Option (NameMap Service)} {name : String}
    {app : Application} {caution : Caution} (listed : caution ∈ app.cautions services name) :
    caution.part = 1 ∧ caution.entity = name := by
  rcases mem_cautions.mp listed with ⟨_, _, _, _, _, rfl⟩ | ⟨_, _, _, _, _, _, rfl⟩ <;>
    exact ⟨rfl, rfl⟩

namespace Document

theorem pairwise_cautions (document : Document) : document.cautions.Pairwise Caution.Before := by
  -- Each of the parts is in order, and everything in it has the number of the part.
  have developers :
      (document.spec.developers.toList.flatMap developerCautions).Pairwise Caution.Before := by
    cases document.spec.developers with
    | none => exact .nil
    | some users => simpa using pairwise_developerCautions users
  have applications : ((document.spec.applications.getD ∅).entries.flatMap fun entry =>
      entry.2.cautions document.spec.services entry.1).Pairwise Caution.Before := by
    refine pairwise_entries (Application.pairwise_cautions _)
      fun name other _ _ less first isFirst second isSecond => ?_
    obtain ⟨part, entity⟩ := Application.place_of_mem_cautions isFirst
    obtain ⟨part', entity'⟩ := Application.place_of_mem_cautions isSecond
    refine .inr ⟨part.trans part'.symm, .inl ?_⟩
    rwa [entity, entity']
  have inDevelopers : ∀ caution ∈ document.spec.developers.toList.flatMap developerCautions,
      caution.part = 0 := by
    intro caution listed
    obtain ⟨users, _, listed⟩ := List.mem_flatMap.mp listed
    obtain ⟨_, _, _, _, _, _, _, rfl⟩ := mem_developerCautions.mp listed
    rfl
  have inApplications : ∀ caution ∈ (document.spec.applications.getD ∅).entries.flatMap
      fun entry => entry.2.cautions document.spec.services entry.1, caution.part = 1 := by
    intro caution listed
    obtain ⟨_, _, listed⟩ := List.mem_flatMap.mp listed
    exact (Application.place_of_mem_cautions listed).1
  -- The three parts follow one another, numbered from zero to two.
  refine List.pairwise_append.mpr ⟨List.pairwise_append.mpr ⟨developers, applications, ?_⟩,
    .sublist (listIf_sublist _ _) (List.pairwise_singleton _ _), ?_⟩
  · intro first isFirst second isSecond
    refine .inl ?_
    rw [inDevelopers first isFirst, inApplications second isSecond]
    exact Nat.zero_lt_one
  · intro first isFirst second isSecond
    obtain ⟨-, rfl⟩ := mem_listIf.mp isSecond
    refine .inl ?_
    rcases List.mem_append.mp isFirst with isFirst | isFirst
    · rw [inDevelopers first isFirst]
      exact Nat.zero_lt_two
    · rw [inApplications first isFirst]
      exact Nat.one_lt_two

/-- The cautions of a document are exactly what will have no effect, in the order in which the
document has it and each once, and the text of each begins with the field that leads there. An
endpoint is among them where the type of the health check is given and has none. Cautions come
with a valid document, however many there are, and do not keep it from being valid. -/
theorem cautions_exact (document : Document) :
    (∀ caution, caution ∈ document.cautions ↔ document.Warrants caution) ∧
    document.cautions.Pairwise Caution.Before ∧ document.cautions.Nodup ∧
    (∀ caution ∈ document.cautions, ∃ place,
      caution.text = caution.field ++ ": " ++ caution.message ∧
        document.toValue.Leads caution.field place ∧ caution.ShownBy place) ∧
    ∀ cautions, document.validate = .ok cautions ↔
      document.Valid ∧ cautions = document.cautions := by
  refine ⟨fun _ => mem_cautions_iff_warrants, document.pairwise_cautions, ?_,
    fun caution listed => ?_, fun _ => validate_eq_ok_iff⟩
  · refine document.pairwise_cautions.imp fun {first second} before => ?_
    rintro rfl
    exact first.not_before_self before
  · obtain ⟨place, leads, shown⟩ := (mem_cautions_iff_warrants.mp listed).leads
    exact ⟨place, caution.text_eq, leads, shown⟩

/-- Where the type of the health check is left out nothing is said of an endpoint. -/
theorem cautions_omit_endpoint :
    let app : Application := { manifest := { healthCheckHttpEndpoint := some "/health" } }
    let document : Document := { spec := { applications := some (.ofList [("web", app)]) } }
    document.spec.applications.bind (·.get? "web") = some app ∧
      app.manifest.healthCheckHttpEndpoint = some "/health" ∧
      app.manifest.healthCheckType ≠ some .http ∧
      Caution.unusedEndpoint "web" ∉ document.cautions ∧ document.validate = .ok [] := by
  decide +kernel

end Document

end CloudSpace
