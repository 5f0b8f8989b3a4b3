import CloudSpace.Proofs.Validation

/-!
# Broken rules

A document breaks a rule at a place, which can be said of every rule without the list of problems:
`Document.Breaks`. The field that an error names is the way to that place through the document as
it is written: to a blank text, to a zero, or to the record under a name that no entity can have.
-/
namespace CloudSpace

/-! ### Broken rules -/

/-- The fields of a target that may not be blank. -/
def Target.fields (target : Target) : List (String × String) :=
  [("api", target.api), ("organization", target.organization), ("space", target.space)]

/-- The settings of a manifest that may not be zero. -/
def Manifest.sizes (m : Manifest) : List (String × Option UInt32) :=
  [("instances", m.instances), ("memory", m.memory), ("disk", m.disk), ("timeout", m.timeout)]

/-- A document breaks a rule at a place. -/
inductive Document.Breaks (document : Document) : Problem → Prop
  | target {target : Target} {field value : String} (given : document.target = some target)
      (has : (field, value) ∈ target.fields) (blank : Text.isBlankText value = true) :
      Breaks document (.blankTargetField field)
  | developer {users : List String} {index : Nat} {user : String}
      (given : document.spec.developers = some users) (has : users[index]? = some user)
      (blank : Text.isBlankText user = true) :
      Breaks document (.blankDeveloper index)
  | serviceName {services : NameMap Service} {name : String} {service : Service}
      (given : document.spec.services = some services) (has : services.get? name = some service)
      (unusable : ¬ UsableName name) :
      Breaks document (.badServiceName name)
  | offering {services : NameMap Service} {name : String} {service : Service}
      (given : document.spec.services = some services) (has : services.get? name = some service)
      (blank : Text.isBlankText service.offering = true) :
      Breaks document (.blankOffering name)
  | plan {services : NameMap Service} {name : String} {service : Service}
      (given : document.spec.services = some services) (has : services.get? name = some service)
      (blank : Text.isBlankText service.plan = true) :
      Breaks document (.blankPlan name)
  | applicationName {apps : NameMap Application} {name : String} {app : Application}
      (given : document.spec.applications = some apps) (has : apps.get? name = some app)
      (unusable : ¬ UsableName name) :
      Breaks document (.badApplicationName name)
  | setting {apps : NameMap Application} {name : String} {app : Application} {setting : String}
      (given : document.spec.applications = some apps) (has : apps.get? name = some app)
      (zero : (setting, some 0) ∈ app.manifest.sizes) :
      Breaks document (.zeroSetting name setting)

/-! ### The way to a place -/

/-- A text leads from a value to one inside: by the names of fields with dots between them, and by
positions in brackets. -/
inductive Value.Leads (whole : Value) : String → Value → Prop
  | field {fields : List (String × Value)} {name : String} {inner : Value}
      (given : whole = .record fields) (has : (name, inner) ∈ fields) : Leads whole name inner
  | within {route name : String} {fields : List (String × Value)} {inner : Value}
      (outer : Leads whole route (.record fields)) (has : (name, inner) ∈ fields) :
      Leads whole s!"{route}.{name}" inner
  | item {route : String} {items : List Value} {index : Nat} {inner : Value}
      (outer : Leads whole route (.list items)) (has : items[index]? = some inner) :
      Leads whole s!"{route}[{index}]" inner

/-- What stands where a problem is: a blank text, a zero, or a record under a name that no entity
can have. -/
def Problem.ShownBy (problem : Problem) (place : Value) : Prop :=
  match problem with
  | blankTargetField _ | blankDeveloper _ | blankOffering _ | blankPlan _ =>
    ∃ content, place = .text content ∧ Text.isBlankText content = true
  | badServiceName name | badApplicationName name =>
    ¬UsableName name ∧ ∃ fields, place = .record fields
  | zeroSetting _ _ => place = .int 0

/-- A field on a route that is written in another way. -/
theorem Value.Leads.within_eq {whole inner : Value} {route longer : String}
    {fields : List (String × Value)} (name : String) (outer : whole.Leads route (.record fields))
    (has : (name, inner) ∈ fields) (along : route ++ "." ++ name = longer) :
    whole.Leads longer inner :=
  along ▸ outer.within has

/-- A record under its name. -/
theorem Value.Leads.entry {α : Type} {whole : Value} {route name : String} {records : NameMap α}
    {write : α → Value} {record : α}
    (outer : whole.Leads route (.record (records.map write).entries))
    (has : records.get? name = some record) : whole.Leads s!"{route}.{name}" (write record) :=
  outer.within (List.mem_map_of_mem (f := fun entry => (entry.1, write entry.2))
    (NameMap.get?_eq_some_iff.mp has))

theorem Manifest.mem_fields_of_mem_sizes {m : Manifest} {setting : String} {word : UInt32}
    (given : (setting, some word) ∈ m.sizes) : (setting, .int word.toNat) ∈ m.fields := by
  simp only [sizes, List.mem_cons, Prod.mk.injEq, List.not_mem_nil, or_false] at given
  rcases given with ⟨rfl, given⟩ | ⟨rfl, given⟩ | ⟨rfl, given⟩ | ⟨rfl, given⟩ <;>
    simp [fields, Value.fieldOfWord?, ← given]

namespace Document

variable {document : Document}

theorem leads_target {target : Target} {field value : String}
    (given : document.target = some target) (has : (field, value) ∈ target.fields) :
    document.toValue.Leads s!"target.{field}" (.text value) := by
  have outer : document.toValue.Leads "target" target.toValue := .field rfl (by simp [given])
  refine .within outer ?_
  exact List.mem_map_of_mem (f := fun entry => (entry.1, Value.text entry.2)) has

theorem leads_spec : document.toValue.Leads "spec" document.spec.toValue :=
  .field rfl (by simp)

theorem leads_developer {users : List String} {index : Nat} {user : String}
    (given : document.spec.developers = some users) (has : users[index]? = some user) :
    document.toValue.Leads s!"spec.spaceDevelopers[{index}]" (.text user) := by
  have outer : document.toValue.Leads "spec.spaceDevelopers" (Value.ofTextList users) :=
    leads_spec.within_eq "spaceDevelopers" (by simp [given]) rfl
  exact .item outer (by simp [has])

theorem leads_service {services : NameMap Service} {name : String} {service : Service}
    (given : document.spec.services = some services) (has : services.get? name = some service) :
    document.toValue.Leads s!"spec.services.{name}" service.toValue := by
  have outer : document.toValue.Leads "spec.services"
      (.record (services.map Service.toValue).entries) :=
    leads_spec.within_eq "services" (by simp [given]) rfl
  exact outer.entry has

/-- The path of an application leads to its record. -/
theorem leads_application {apps : NameMap Application} {name : String} {app : Application}
    (given : document.spec.applications = some apps) (has : apps.get? name = some app) :
    document.toValue.Leads s!"spec.apps.{name}" app.toValue := by
  have outer : document.toValue.Leads "spec.apps"
      (.record (apps.map Application.toValue).entries) :=
    leads_spec.within_eq "apps" (by simp [given]) rfl
  exact outer.entry has

/-- The field that is named for a broken rule leads to what breaks it. -/
theorem Breaks.leads {problem : Problem} (broken : document.Breaks problem) :
    ∃ place, document.toValue.Leads problem.field place ∧ problem.ShownBy place := by
  cases broken with
  -- The path of each problem is the one to the record it is about, and the field within.
  | target given has blank => exact ⟨_, leads_target given has, _, rfl, blank⟩
  | developer given has blank => exact ⟨_, leads_developer given has, _, rfl, blank⟩
  | serviceName given has unusable => exact ⟨_, leads_service given has, unusable, _, rfl⟩
  | @offering services name service given has blank =>
    have leads : document.toValue.Leads s!"spec.services.{name}.service" (.text service.offering) :=
      (leads_service given has).within_eq "service" (by simp) String.append_assoc
    exact ⟨_, leads, _, rfl, blank⟩
  | @plan services name service given has blank =>
    have leads : document.toValue.Leads s!"spec.services.{name}.plan" (.text service.plan) :=
      (leads_service given has).within_eq "plan" (by simp) String.append_assoc
    exact ⟨_, leads, _, rfl, blank⟩
  | applicationName given has unusable =>
    exact ⟨_, leads_application given has, unusable, _, rfl⟩
  | @setting apps name app setting given has zero =>
    have manifest : document.toValue.Leads s!"spec.apps.{name}.manifest" app.manifest.toValue :=
      (leads_application given has).within_eq "manifest" (by simp)
        String.append_assoc
    have leads : document.toValue.Leads s!"spec.apps.{name}.manifest.{setting}" (.int 0) :=
      manifest.within_eq setting (Manifest.mem_fields_of_mem_sizes zero)
        (congrArg (· ++ setting) String.append_assoc)
    exact ⟨_, leads, rfl⟩

end Document

end CloudSpace
