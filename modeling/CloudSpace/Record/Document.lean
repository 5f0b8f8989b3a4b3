import CloudSpace.Record.Space
import CloudSpace.Yaml.Printer
import CloudSpace.Yaml.Reader

/-!
# Documents

A document names the space it is about and describes what should be in it. A section that is
left out is not managed at all, while an empty section asks for there to be nothing of its kind.
-/
namespace CloudSpace

/-- Where the space of a document is found. -/
structure Target where
  api : String
  organization : String
  space : String
deriving DecidableEq, Inhabited

/-- The desired state, section by section. -/
structure Spec where
  developers : Option (List String) := none
  services : Option (NameMap Service) := none
  applications : Option (NameMap Application) := none
deriving DecidableEq, Inhabited

structure Document where
  apiVersion : Option String := none
  target : Option Target := none
  spec : Spec := {}
deriving DecidableEq, Inhabited

namespace Spec

/-- Whether no section is present. -/
def isEmpty (spec : Spec) : Bool :=
  spec.developers.isNone && spec.services.isNone && spec.applications.isNone

/-- The space a spec describes, an absent section read as an empty one. -/
def toSpace (spec : Spec) : Space :=
  ⟨spec.applications.getD ∅, spec.services.getD ∅, spec.developers.getD []⟩

/-- The spec that describes a space, with every section present. -/
def ofSpace (space : Space) : Spec :=
  ⟨some space.developers, some space.services, some space.applications⟩

/-- The entities of one kind, if their section is present. -/
def restrict? (spec : Spec) : EntityKind → Option Space
  | .applications => spec.applications.map fun applications => { applications }
  | .services => spec.services.map fun services => { services }
  | .developers => spec.developers.map fun developers => { developers }

def toValue (spec : Spec) : Value :=
  .record ((spec.developers.toList.map fun users => ("spaceDevelopers", Value.ofTextList users)) ++
    (spec.services.toList.map fun services =>
      ("services", Value.record (services.map Service.toValue).entries)) ++
    (spec.applications.toList.map fun apps =>
      ("apps", Value.record (apps.map Application.toValue).entries)))

end Spec

def Target.toValue (target : Target) : Value :=
  .record [("api", .text target.api), ("organization", .text target.organization),
    ("space", .text target.space)]

namespace Document

/-- The version of documents that are written here. -/
def currentVersion : String := "1.0"

/-- The document that describes a spec. -/
def ofSpec (spec : Spec) (target : Option Target := none) : Document :=
  { apiVersion := some currentVersion, target, spec }

def toValue (document : Document) : Value :=
  .record (Value.fieldOfText? "apiVersion" document.apiVersion ++
    (document.target.toList.map fun target => ("target", target.toValue)) ++
    [("spec", document.spec.toValue)])

end Document

/-! ### Decoding -/

open Yaml (Node DecodeError Wanted)

/-- A target of which fields have been read so far. -/
structure Target.Draft where
  api : Option String := none
  organization : Option String := none
  space : Option String := none

/-- A draft with one more field read. -/
def Target.Draft.readField (draft : Target.Draft) (name : String) (node : Node) :
    Except DecodeError Target.Draft := do
  match name with
  | "api" => return { draft with api := some (← node.text) }
  | "organization" => return { draft with organization := some (← node.text) }
  | "space" => return { draft with space := some (← node.text) }
  | _ => return draft

/-- The target of a draft in which nothing is missing. -/
def Target.Draft.complete? (draft : Target.Draft) : Option Target := do
  return ⟨← draft.api, ← draft.organization, ← draft.space⟩

/-- What reading a target looks at. -/
def Target.wanted : Wanted :=
  .record [("api", .scalar), ("organization", .scalar), ("space", .scalar)]

def Target.ofNode (node : Node) : Except DecodeError Target := do
  let draft ← node.foldFields ["api", "organization", "space"] Draft.readField {}
  match draft.complete? with
  | some target => return target
  | none => throw .malformed

/-- A map from names to what is read of its values. -/
def Yaml.Node.nameMap {α : Type} (read : Node → Except DecodeError α) (node : Node) :
    Except DecodeError (NameMap α) := do
  return NameMap.ofList (← node.names read)

/-- A spec with one more section read. -/
def Spec.readField (spec : Spec) (name : String) (node : Node) : Except DecodeError Spec := do
  match name with
  | "spaceDevelopers" => return { spec with developers := ← node.optional Node.texts }
  | "services" => return { spec with services := ← node.optional (Node.nameMap Service.ofNode) }
  | "apps" =>
    return { spec with applications := ← node.optional (Node.nameMap Application.ofNode) }
  | _ => return spec

/-- What reading a spec looks at. -/
def Spec.wanted : Wanted :=
  .record [("spaceDevelopers", .list .scalar), ("services", .names Service.wanted),
    ("apps", .names Application.wanted)]

def Spec.ofNode (node : Node) : Except DecodeError Spec :=
  node.foldFields ["spaceDevelopers", "services", "apps"] Spec.readField {}

/-- A document with one more field read. -/
def Document.readField (document : Document) (name : String) (node : Node) :
    Except DecodeError Document := do
  match name with
  | "apiVersion" => return { document with apiVersion := ← node.optional Node.text }
  | "target" => return { document with target := ← node.optional Target.ofNode }
  | "spec" => return { document with spec := ← Spec.ofNode node }
  | _ => return document

/-- What reading a document looks at. -/
def Document.wanted : Wanted :=
  .record [("apiVersion", .scalar), ("target", Target.wanted), ("spec", Spec.wanted)]

def Document.ofNode (node : Node) : Except DecodeError Document :=
  node.foldFields ["apiVersion", "target", "spec"] Document.readField {}

/-- The document of a data value. -/
def Document.ofValue (value : Value) : Except DecodeError Document :=
  Document.ofNode (.data value)

/-! ### Documents as text -/

/-- The document of a text. A part of the tree that does not decode is an error even where the
text breaks off later; a text that breaks off is one in any case. -/
def Document.ofYaml (content : String) : Except Yaml.DecodeError Document := do
  let source := Yaml.read content
  let document ← Document.ofNode (source.unfold Document.wanted)
  if source.whole then return document else throw .malformed

def Document.toYaml (document : Document) : String := Yaml.print document.toValue

def Application.toYaml (app : Application) : String := Yaml.print app.toValue

end CloudSpace
