import CloudSpace.Change.Basic
import CloudSpace.Error

/-!
# Transitions

What a list of changes says about one entity: that it is to be made, to be deleted, or to be
changed in place. A record that appears or disappears as a whole has no other changes beside
it; a list that claims so is refused, and so is one with a change of another entity.
-/
namespace CloudSpace

inductive Transition
  /-- The entity is only desired; with the desired record. -/
  | create (affected : Affected)
  /-- The entity is only live; with the live record. -/
  | delete (affected : Affected)
  | update (changes : List Change)
deriving DecidableEq

/-- Whether a change lies within an entity. -/
def Change.isWithin (change : Change) (kind : EntityKind) (entity : String) : Bool :=
  change.path.kind? = some kind && change.path.entity? = some entity

/-- The transition of one entity that a list of changes describes. -/
def Transition.of (kind : EntityKind) (entity : String) (changes : List Change) :
    Except Error Transition :=
  let refuse (message : String) : Except Error Transition :=
    .error (.plan (.invariant kind entity message))
  if entity.isEmpty then .error (.plan (.precondition s!"{kind} name must not be empty"))
  else
    -- A change of another entity is the first fault to be found.
    match changes.find? (fun change => !change.isWithin kind entity) with
    | some foreign => refuse s!"change at '{foreign.path.text}' belongs to another entity"
    | none =>
      let added := changes.countP Change.isObjectAdded
      let removed := changes.countP Change.isObjectRemoved
      if added = 0 ∧ removed = 0 then .ok (.update changes)
      else
        match changes with
        | [only] =>
          if !only.path.isEntityRoot then
            refuse s!"{only.difference.name} below the entity root at '{only.path.text}'"
          -- The one change adds or removes the record, so either count tells which.
          else if removed = 0 then .ok (.create only.affected)
          else .ok (.delete only.affected)
        | _ =>
          if 1 < removed then refuse s!"{removed} removals of the same entity"
          else if 1 < added then refuse s!"{added} additions of the same entity"
          else refuse "whole-record change mixed with field changes"

/-- The error of a record that is of another type than its kind of entity. -/
def unexpectedRecord (kind : EntityKind) (entity : String) (affected : Affected) : Error :=
  .plan (.invariant kind entity
    s!"affected record is a {affected.typeName}, expected a {kind}")

end CloudSpace
