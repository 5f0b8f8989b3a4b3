import CloudSpace.Change.Encoding
import CloudSpace.Error

/-!
# Changes by entity

A list of changes is put into groups, one for each application and service and at most one
change for the developers. Each group keeps the order of the list. A list whose changes do not
say where they belong has no groups.
-/
namespace CloudSpace

structure ChangeGroups where
  applications : NameMap (List Change) := ∅
  services : NameMap (List Change) := ∅
  developers : Option Change := none
deriving DecidableEq

/-- How many entities a list of changes creates, updates and deletes. -/
structure ChangeSummary where
  creates : Nat := 0
  updates : Nat := 0
  deletes : Nat := 0
deriving DecidableEq, Repr

namespace ChangeGroups

/-- The entity a change of a keyed section belongs to. -/
def entityOf (change : Change) : Except Error String :=
  match change.path.entity? with
  | some name =>
    -- The empty name is taken for a missing one.
    if name.isEmpty then
      .error (.plan (.precondition s!"change path '{change.path.text}' does not name an entity"))
    else .ok name
  | none =>
    .error (.plan (.precondition s!"change path '{change.path.text}' does not name an entity"))

/-- Put a change at the end of the group of a name. -/
def addTo (groups : NameMap (List Change)) (name : String) (change : Change) :
    NameMap (List Change) :=
  groups.insert name ((groups.get? name).getD [] ++ [change])

def isCollection : Difference → Bool
  | .collection .. => true
  | _ => false

/-- The groups with one more change. -/
def add (groups : ChangeGroups) (change : Change) : Except Error ChangeGroups :=
  match change.path.kind? with
  | some .applications => do
    let name ← entityOf change
    return { groups with applications := addTo groups.applications name change }
  | some .services => do
    let name ← entityOf change
    return { groups with services := addTo groups.services name change }
  | some .developers =>
    if !isCollection change.difference then
      .error (.plan (.invariant .developers "" s!"unexpected {change.difference.name} change"))
    else if groups.developers.isSome then
      .error (.plan (.invariant .developers ""
        "more than one change to the space developer list"))
    else .ok { groups with developers := some change }
  | none =>
    .error (.plan (.precondition
      s!"change path '{change.path.text}' does not start with an entity kind"))

/-- The groups of a list of changes. -/
def build (changes : List Change) : Except Error ChangeGroups :=
  changes.foldlM add {}

def isEmpty (groups : ChangeGroups) : Bool :=
  groups.applications.isEmpty && groups.services.isEmpty && groups.developers.isNone

/-- Every change, by group. -/
def toList (groups : ChangeGroups) : List Change :=
  groups.applications.values.flatten ++ groups.services.values.flatten ++
    groups.developers.toList

/-- How many changes the groups of some entities hold. -/
def totalLength (groups : List (List Change)) : Nat :=
  groups.foldr (fun changes total => changes.length + total) 0

def count (groups : ChangeGroups) : Nat :=
  totalLength groups.applications.values + totalLength groups.services.values +
    (if groups.developers.isSome then 1 else 0)

/-- A summary with one more group. -/
def countGroup (summary : ChangeSummary) (changes : List Change) : ChangeSummary :=
  match changes with
  | [only] =>
    if only.isObjectAdded then { summary with creates := summary.creates + 1 }
    else if only.isObjectRemoved then { summary with deletes := summary.deletes + 1 }
    else { summary with updates := summary.updates + 1 }
  | _ => { summary with updates := summary.updates + 1 }

/-- What becomes of the entities that have changes. -/
def summary (groups : ChangeGroups) : ChangeSummary :=
  let counted := (groups.applications.values ++ groups.services.values).foldl countGroup {}
  if groups.developers.isSome then { counted with updates := counted.updates + 1 } else counted

def toValue (groups : ChangeGroups) : Value :=
  let ofGroups (groups : NameMap (List Change)) : Value :=
    .record (groups.map fun changes => Value.list (changes.map Change.toValue)).entries
  .record [("applicationChanges", ofGroups groups.applications),
    ("serviceChanges", ofGroups groups.services),
    ("spaceDevelopersChange", match groups.developers with
      | some change => change.toValue
      | none => .null)]

end ChangeGroups

def ChangeSummary.isEmpty (summary : ChangeSummary) : Bool :=
  summary.creates == 0 && summary.updates == 0 && summary.deletes == 0

end CloudSpace
