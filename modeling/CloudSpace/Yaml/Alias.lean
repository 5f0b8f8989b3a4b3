import CloudSpace.Yaml.Node

/-!
# Aliases

An alias stands for the tree of its anchor, and may be a part of that tree itself. Such a tree has
no end, but no reading looks at all of it: fields that are not known are passed over with
everything in them, and any value at all is looked at to a fixed depth. So a tree is unfolded
as far as a reading wants it, and a tree without aliases is left. Where it must not be unfolded
any further it is `broken`.
-/
namespace CloudSpace.Yaml

/-- What a reading looks at in a tree. -/
inductive Wanted
  | scalar
  /-- Any value, and everything in it. -/
  | value
  | list (items : Wanted)
  /-- A map from names. -/
  | names (values : Wanted)
  /-- A record with its known fields. -/
  | record (fields : List (String × Wanted))

namespace Wanted

/-- What is looked at in the items of a list, if a list is wanted. -/
def ofItem? : Wanted → Option Wanted
  | value => some value
  | list items => some items
  | _ => none

/-- What is looked at in the keys of a record, if a record is wanted. -/
def ofKey? : Wanted → Option Wanted
  | value => some value
  | names _ => some scalar
  | record _ => some scalar
  | _ => none

/-- What is looked at in the value beside a key, if it is not passed over. -/
def ofValue? : Wanted → Node → Option Wanted
  | value, _ => some value
  | names values, _ => some values
  | record fields, .written name _ _ => fields.lookup name
  | _, _ => none

end Wanted

/-- The trees a text describes. -/
structure Source where
  root : Node
  /-- The trees that aliases stand for, by the numbers of their anchors. -/
  anchors : Array Node
  /-- Whether the whole text was read as one document. -/
  whole : Bool

namespace Source

/-- How deep lists and records may be nested where they are looked at. -/
def greatestDepth : Nat := 128

/-- How many aliases may be followed for each mark of a text. -/
def greatestRepetition : Nat := 100

/-- The node an alias stands for; any other node stands for itself. The state is the number of
aliases that may still be followed. -/
def follow (source : Source) (node : Node) : StateM Nat Node := do
  match node with
  | .anchored number =>
    match ← get with
    | 0 => return .broken
    | left + 1 =>
      set left
      return source.anchors.getD number .broken
  | node => return node

/-- What cannot be read ends a reading, so that no alias after it is followed. -/
def giveUp : StateM Nat Node := do
  set 0
  return .broken

/-- A node unfolded as far as it is wanted, with lists and records at most so deep. -/
def unfoldNode (source : Source) : Nat → Wanted → Node → StateM Nat Node
  | 0, _, node => do
    match ← source.follow node with
    | .list _ | .record _ => giveUp
    | node => return node
  | depth + 1, wanted, node => do
    match ← source.follow node with
    | .list items =>
      match wanted.ofItem? with
      | none => giveUp
      | some item => return .list (← items.mapM (unfoldNode source depth item))
    | .record entries =>
      match wanted.ofKey? with
      | none => giveUp
      | some ofKey =>
        return .record (← entries.mapM fun entry => do
          let key ← unfoldNode source depth ofKey entry.1
          match wanted.ofValue? key with
          | none => return (key, entry.2)
          | some ofValue => return (key, ← unfoldNode source depth ofValue entry.2))
    | node => return node

/-- The tree of a text as far as a reading wants it. -/
def unfold (source : Source) (wanted : Wanted) : Node :=
  let aliases := greatestRepetition * source.root.marks
  ((source.unfoldNode greatestDepth wanted source.root).run aliases).run.1

end Source

end CloudSpace.Yaml
