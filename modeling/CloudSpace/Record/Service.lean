import CloudSpace.Record.Application

/-!
# Service instances

An instance of a plan of a service offering, with tags and with the parameters it is made from.
-/
namespace CloudSpace

structure Service where
  /-- The name of the offering. -/
  offering : String
  plan : String
  tags : List String := []
  params : NameMap String := ∅
deriving DecidableEq, Inhabited

namespace Service

def toValue (service : Service) : Value :=
  .record ([("service", .text service.offering), ("plan", .text service.plan)] ++
    Value.fieldOfTextList "tags" service.tags ++
    Value.fieldOfTexts "params" service.params.entries)

open Yaml (Node DecodeError Wanted)

/-- A service of which fields have been read so far. -/
structure Draft where
  offering : Option String := none
  plan : Option String := none
  tags : List String := []
  params : NameMap String := ∅

/-- A draft with one more field read. -/
def Draft.readField (draft : Draft) (name : String) (node : Node) : Except DecodeError Draft := do
  match name with
  | "service" => return { draft with offering := some (← node.text) }
  | "plan" => return { draft with plan := some (← node.text) }
  | "tags" => return { draft with tags := ← node.texts }
  | "params" => return { draft with params := ← node.scalarMap }
  | _ => return draft

/-- The service of a draft in which nothing is missing. -/
def Draft.complete? (draft : Draft) : Option Service := do
  return ⟨← draft.offering, ← draft.plan, draft.tags, draft.params⟩

/-- What reading a service looks at. -/
def wanted : Wanted :=
  .record [("service", .scalar), ("plan", .scalar), ("tags", .list .scalar),
    ("params", .names .value)]

def ofNode (node : Node) : Except DecodeError Service := do
  let draft ← node.foldFields ["service", "plan", "tags", "params"] Draft.readField {}
  match draft.complete? with
  | some service => return service
  | none => throw .malformed

end Service

end CloudSpace
