import CloudSpace.Record.Space

/-!
# Changes

A change is one difference between a live and a desired space: where it is, what differs there,
and the record that owns the place. Everything a planner has to know is in the change, so that
no planner looks at the spaces again.
-/
namespace CloudSpace

/-- One step of a path. -/
inductive Segment
  | kind (kind : EntityKind)
  | entity (name : String)
  | field (name : String)
deriving DecidableEq, Repr

def Segment.text : Segment → String
  | .kind which => which.sectionName
  | .entity name => name
  | .field name => name

/-- The way from a space to the place of a change. -/
structure Path where
  segments : List Segment
deriving DecidableEq, Repr, Inhabited

namespace Path

/-- The path of a whole section. -/
def ofKind (kind : EntityKind) : Path := ⟨[.kind kind]⟩

/-- The path of an entity. -/
def ofEntity (kind : EntityKind) (name : String) : Path := ⟨[.kind kind, .entity name]⟩

/-- The path of a field below a path. -/
def child (path : Path) (field : String) : Path := ⟨path.segments ++ [.field field]⟩

/-- The section a path starts in. -/
def kind? (path : Path) : Option EntityKind :=
  match path.segments with
  | .kind kind :: _ => some kind
  | _ => none

/-- The entity a path leads to or into. -/
def entity? (path : Path) : Option String :=
  match path.segments with
  | _ :: .entity name :: _ => some name
  | _ => none

/-- Whether a path leads to an entity and not into it. -/
def isEntityRoot (path : Path) : Bool :=
  path.segments.length == 2 && path.kind?.isSome && path.entity?.isSome

/-- The field a path ends in. -/
def property? (path : Path) : Option String :=
  match path.segments.getLast? with
  | some (.field name) => some name
  | _ => none

/-- The texts of the steps. -/
def texts (path : Path) : List String := path.segments.map Segment.text

def text (path : Path) : String := "/".intercalate path.texts

end Path

/-- The record that owns the place of a change. -/
inductive Affected
  | application (app : Application)
  | service (service : Service)
  | manifest (manifest : Manifest)
  | developers (users : List String)
deriving DecidableEq, Inhabited

/-- The name of the type of record in messages. -/
def Affected.typeName : Affected → String
  | application _ => "application"
  | service _ => "service"
  | manifest _ => "manifest"
  | developers _ => "space developers"

inductive EntryChangeKind
  | added | removed | changed
deriving DecidableEq, Repr

/-- The change of one key of a map. -/
structure EntryChange where
  key : String
  kind : EntryChangeKind
  before : Option String
  after : Option String
deriving DecidableEq, Repr

/-- What differs at a place. -/
inductive Difference
  /-- The record is only desired. -/
  | objectAdded
  /-- The record is only live. -/
  | objectRemoved
  | value (before after : Option String)
  /-- A list differs as a set. -/
  | collection (added removed : List String)
  | map (entries : List EntryChange)
deriving DecidableEq, Repr

/-- The name of the sort of difference in messages. -/
def Difference.name : Difference → String
  | objectAdded => "object added"
  | objectRemoved => "object removed"
  | value .. => "value changed"
  | collection .. => "collection changed"
  | map _ => "map changed"

structure Change where
  path : Path
  affected : Affected
  difference : Difference
deriving DecidableEq

namespace Change

def isObjectAdded (change : Change) : Bool := change.difference = .objectAdded

def isObjectRemoved (change : Change) : Bool := change.difference = .objectRemoved

def property? (change : Change) : Option String := change.path.property?

/-- The text of a value that may be absent. -/
def valueText (value : Option String) : String := value.getD "<none>"

def sign : EntryChangeKind → String
  | .added => "+"
  | .removed => "-"
  | .changed => "~"

/-- A change on one line. -/
def text (change : Change) : String :=
  match change.difference with
  | .objectAdded => s!"+ {change.path.text}"
  | .objectRemoved => s!"- {change.path.text}"
  | .value before after => s!"~ {change.path.text}: {valueText before} -> {valueText after}"
  | .collection added removed =>
    s!"~ {change.path.text}:" ++ String.join (added.map (" +" ++ ·)) ++
      String.join (removed.map (" -" ++ ·))
  | .map entries =>
    s!"~ {change.path.text}:" ++ String.join (entries.map fun entry =>
      " " ++ sign entry.kind ++ entry.key)

end Change

end CloudSpace
