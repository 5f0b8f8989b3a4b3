import CloudSpace.Plan.Application

/-!
# Plans for services and developers

A service instance can only be made or deleted, so that a change in place is refused and never
silently dropped. The developers are one entity with at most one change: those to be added are
granted the role, and then it is taken from those to be removed.
-/
namespace CloudSpace.Plan

/-- The plan for one service instance. -/
def service (name : String) (changes : List Change) : EntityPlan :=
  match Transition.of .services name changes with
  | .error error => { calls := .error error }
  | .ok (.create (.service config)) => { calls := .ok [.createService name config] }
  | .ok (.delete (.service _)) => { calls := .ok [.deleteService name] }
  | .ok (.create other) | .ok (.delete other) =>
    { calls := .error (unexpectedRecord .services name other) }
  | .ok (.update []) => { calls := .ok [] }
  | .ok (.update (first :: _)) =>
    { calls := .error (.plan (.unsupported .services name first.text)) }

/-- The calls for the change of the developers. -/
def developerCalls (changes : List Change) : Except Error (List Call) :=
  let refuse (message : String) : Except Error (List Call) :=
    .error (.plan (.invariant .developers "" message))
  match changes with
  | [] => .ok []
  | [only] =>
    match only.difference with
    | .collection added removed =>
      if only.path.kind? = some .developers then
        .ok (added.map .grantDeveloper ++ removed.map .revokeDeveloper)
      else refuse s!"change at '{only.path.text}' is not the space developer list"
    | other => refuse s!"unexpected {other.name} change"
  | _ => refuse s!"{changes.length} changes to the space developer list"

/-- The plan for the developers. -/
def developers (changes : List Change) : EntityPlan := { calls := developerCalls changes }

/-- The plan for one entity of a kind. -/
def ofKind (kind : EntityKind) (name : String) (changes : List Change) : EntityPlan :=
  match kind with
  | .applications => application name changes
  | .services => service name changes
  | .developers => developers changes

end CloudSpace.Plan
