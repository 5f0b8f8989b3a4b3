import CloudSpace.Record.Service

/-!
# Spaces

The state of one space, live or desired: its applications and service instances by name, and
the users who hold the role of space developer.
-/
namespace CloudSpace

/-- The three kinds of entity in a space. -/
inductive EntityKind
  | applications | services | developers
deriving DecidableEq, Repr, Inhabited

namespace EntityKind

/-- The name of the section that holds the entities. -/
def sectionName : EntityKind → String
  | applications => "applications"
  | services => "services"
  | developers => "spaceDevelopers"

/-- The name of one entity in messages. -/
def displayName : EntityKind → String
  | applications => "application"
  | services => "service"
  | developers => "space developers"

instance : ToString EntityKind := ⟨displayName⟩

def all : List EntityKind := [applications, services, developers]

/-- The kind with a section of this name. -/
def ofSectionName? (name : String) : Option EntityKind :=
  all.find? (fun kind => kind.sectionName = name)

end EntityKind

structure Space where
  applications : NameMap Application := ∅
  services : NameMap Service := ∅
  developers : List String := []
deriving DecidableEq, Inhabited

namespace Space

/-- The space without entities. -/
def empty : Space := {}

/-- The space with the entities of one kind only. -/
def restrict (space : Space) : EntityKind → Space
  | .applications => { applications := space.applications }
  | .services => { services := space.services }
  | .developers => { developers := space.developers }

def entityCount (space : Space) : Nat :=
  space.applications.size + space.services.size + space.developers.length

def toValue (space : Space) : Value :=
  .record [("applications", .record (space.applications.map Application.toValue).entries),
    ("services", .record (space.services.map Service.toValue).entries),
    ("space_developers", Value.ofTextList space.developers)]

end Space

end CloudSpace
