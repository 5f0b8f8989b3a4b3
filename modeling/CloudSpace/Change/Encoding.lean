import CloudSpace.Change.Basic
import CloudSpace.Record.Document

/-!
# Changes as data

Changes are written with the texts of their paths, and read with paths whose steps say what they
are, `kind:`, `entity:` or `field:` before a name.
-/
namespace CloudSpace

def Affected.toValue : Affected → Value
  | application app => .record [("type", .text "application"), ("value", app.toValue)]
  | service record => .record [("type", .text "service"), ("value", record.toValue)]
  | manifest record => .record [("type", .text "manifest"), ("value", record.toValue)]
  | developers users =>
    .record [("type", .text "spaceDevelopers"), ("value", Value.ofTextList users)]

def EntryChangeKind.name : EntryChangeKind → String
  | added => "added"
  | removed => "removed"
  | changed => "changed"

def EntryChange.toValue (entry : EntryChange) : Value :=
  .record [("key", .text entry.key), ("kind", .text entry.kind.name),
    ("before", Value.ofText? entry.before), ("after", Value.ofText? entry.after)]

/-- The fields that tell a difference. -/
def Difference.fields : Difference → List (String × Value)
  | objectAdded => [("change", .text "objectAdded")]
  | objectRemoved => [("change", .text "objectRemoved")]
  | value before after =>
    [("change", .text "valueChanged"), ("before", Value.ofText? before),
      ("after", Value.ofText? after)]
  | collection added removed =>
    [("change", .text "collectionChanged"), ("added", Value.ofTextList added),
      ("removed", Value.ofTextList removed)]
  | map entries =>
    [("change", .text "mapChanged"), ("entries", .list (entries.map EntryChange.toValue))]

def Path.toValue (path : Path) : Value := Value.ofTextList path.texts

def Change.toValue (change : Change) : Value :=
  .record ([("path", change.path.toValue), ("affected", change.affected.toValue)] ++
    change.difference.fields)

/-! ### Reading

Where a change cannot be read, the error is the name of what is missing or malformed. -/

/-- The record in a field, the empty one where the field is missing. -/
def Value.recordOf {α : Type} [Inhabited α] (decode : Yaml.Node → Except Yaml.DecodeError α)
    (value : Value) (field : String) : Except String α :=
  match value.get? field with
  | none | some .null => .ok default
  | some given => (decode (.data given)).mapError fun _ => "record"

/-- The step that a text with a mark describes. -/
def Segment.ofMarked (text : String) : Except String Segment :=
  match text.splitOn ":" with
  | mark :: rest@(_ :: _) =>
    let name := ":".intercalate rest
    match mark with
    | "kind" =>
      match EntityKind.ofSectionName? name with
      | some which => .ok (.kind which)
      | none => .error "kind"
    | "entity" => .ok (.entity name)
    | "field" => .ok (.field name)
    | _ => .error "path"
  | _ => .error "path"

/-- The path in a field, step by step. -/
def Path.read (value : Value) (field : String) : Except String Path := do
  return ⟨← (← value.textsOf field).mapM Segment.ofMarked⟩

def Affected.ofValue (value : Value) : Except String Affected := do
  match ← value.textOf "type" with
  | "application" => return .application (← value.recordOf Application.ofNode "value")
  | "service" => return .service (← value.recordOf Service.ofNode "value")
  | "manifest" => return .manifest (← value.recordOf Manifest.ofNode "value")
  | "spaceDevelopers" => return .developers (← value.textsOf "value")
  | _ => throw "affected"

def EntryChangeKind.ofName? (name : String) : Option EntryChangeKind :=
  [added, removed, changed].find? (fun kind => kind.name = name)

def EntryChange.ofValue (value : Value) : Except String EntryChange := do
  let key ← value.textOf "key"
  match EntryChangeKind.ofName? (← value.textOf "kind") with
  | some sort =>
    return ⟨key, sort, ← value.optionalOf Value.text? "before",
      ← value.optionalOf Value.text? "after"⟩
  | none => throw "kind"

/-- The difference told by the fields of a record. -/
def Difference.ofValue (value : Value) : Except String Difference := do
  match ← value.textOf "change" with
  | "objectAdded" => return .objectAdded
  | "objectRemoved" => return .objectRemoved
  | "valueChanged" =>
    return .value (← value.optionalOf Value.text? "before")
      (← value.optionalOf Value.text? "after")
  | "collectionChanged" =>
    return .collection (← value.textsOf "added") (← value.textsOf "removed")
  | "mapChanged" => return .map (← (← value.itemsOf "entries").mapM EntryChange.ofValue)
  | _ => throw "change"

def Change.ofValue (value : Value) : Except String Change := do
  let path ← Path.read value "path"
  let affected ← Affected.ofValue ((value.get? "affected").getD .null)
  return ⟨path, affected, ← Difference.ofValue value⟩

end CloudSpace
