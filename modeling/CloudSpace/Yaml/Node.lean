import CloudSpace.Json.Printer
import CloudSpace.Yaml.Plain

/-!
# Document trees

The tree a text describes before anyone has said what its parts are for. A scalar may be read
in more than one way: `1.0` is a text where a text is asked for and a number where any data
value will do. Each reading is one function here, of trees in which no alias is left where it
looks. A tree whose text broke off carries the place as a `broken` node, which no reading
accepts. A data value is a tree as well, in which scalars read as nothing but their type, and
the elements of a list may be the fields of a record in their order.
-/
namespace CloudSpace.Yaml

/-- How a scalar was written, as far as readings care. -/
inductive ScalarStyle
  | plain | quoted | literal | folded
deriving DecidableEq, Repr

inductive Node
  /-- A scalar of a text, with the full name of its tag. -/
  | written (content : String) (style : ScalarStyle) (tag : Option String)
  /-- A data value, in which everything has a type of its own. -/
  | data (value : Value)
  | list (items : List Node)
  | record (entries : List (Node × Node))
  /-- The tree of the anchor with this number, written as an alias. -/
  | anchored (number : Nat)
  | broken
deriving Repr, Inhabited

/-- Why a tree does not decode. -/
inductive DecodeError
  | malformed
  /-- A value of a map of scalars is a list or a record. -/
  | notScalar (key : String)
deriving DecidableEq, Repr

namespace Node

/-! ### Tags -/

def standardTag (name : String) : String := "tag:yaml.org,2002:" ++ name

/-- The name of a tag that is no standard one. -/
def localTag? (tag : Option String) : Option String :=
  match tag.map String.toList with
  | some ('!' :: []) => some "!"
  | some ('!' :: name) => some (String.ofList name)
  | _ => none

/-! ### Data values -/

/-- The value of a plain scalar without a tag. -/
def plainValue? (content : String) : Option Value :=
  match Plain.resolve content with
  | .null => some .null
  | .bool flag => some (.bool flag)
  | .int number => some (.int number)
  | .tooWide => none
  | .float number => some (.float number)
  | .text => some (.text content)

/-- The value of a scalar with a standard tag: that of its type, or none at all. -/
def standardValue? (content : String) (tag : String) : Option Value :=
  if tag = standardTag "bool" then (Plain.bool? content).map .bool
  else if tag = standardTag "int" then
    match (Plain.whole? content).filter Plain.isHeld with
    | some number => some (.int number)
    | none => none
  else if tag = standardTag "float" then (Plain.float? content).map .float
  else if tag = standardTag "null" then if Plain.isNull content then some .null else none
  else some (.text content)

/-- A value with a tag of its own, as a record of one field. -/
def taggedValue (tag : String) (value : Value) : Value := .record [("!" ++ tag, value)]

/-- The value of a scalar where any value will do. -/
def scalarValue? (content : String) (style : ScalarStyle) (tag : Option String) : Option Value :=
  let untagged := if style = .plain then plainValue? content else some (.text content)
  match tag, localTag? tag with
  | none, _ => untagged
  | some _, some name => untagged.map (taggedValue name)
  | some tag, none => standardValue? content tag

/-- A name for a value that stands as a key; different values have different names. -/
def keyName : Value → String
  | .text content => "'" ++ content
  | .float number => number.text
  | value => Json.compact value

mutual

/-- The value of a tree where any value will do. A record that has one key twice has none. -/
def value? : Node → Option Value
  | written content style tag => scalarValue? content style tag
  | data value => some value
  | list items => (values? items).map .list
  | record entries => (fields? entries).bind fun fields =>
    if (fields.map (·.1)).Nodup then some (.record fields) else none
  | anchored _ => none
  | broken => none

def values? : List Node → Option (List Value)
  | [] => some []
  | node :: rest => do
    let value ← value? node
    let values ← values? rest
    some (value :: values)

def fields? : List (Node × Node) → Option (List (String × Value))
  | [] => some []
  | (key, node) :: rest => do
    let key ← value? key
    let value ← value? node
    let fields ← fields? rest
    some ((keyName key, value) :: fields)

end

/-- The text of a value that is a scalar. -/
def scalarText? : Value → Option String
  | .null => some ""
  | .bool flag => some (if flag then "true" else "false")
  | .int number => some (toString number)
  | .float number => some number.text
  | .text content => some content
  | .list _ => none
  | .record _ => none

/-! ### Readings of one field -/

/-- Every scalar of a text reads as its characters, whatever it may stand for. -/
def text : Node → Except DecodeError String
  | written content _ _ => .ok content
  | data (.text content) => .ok content
  | _ => .error .malformed

/-- A whole number of thirty-two bits without a sign. -/
def word32 : Node → Except DecodeError UInt32
  | written content style tag =>
    let readable := style = .plain || (style = .literal && tag = some (standardTag "int"))
    match if readable then Plain.unsigned? content else none with
    | some n => if n < wordSize 32 then .ok n.toUInt32 else .error .malformed
    | none => .error .malformed
  | data value =>
    match value.word32? with
    | some word => .ok word
    | none => .error .malformed
  | _ => .error .malformed

/-- A truth value. -/
def flag : Node → Except DecodeError Bool
  | written content style tag =>
    let readable := style = .plain || (style = .literal && tag = some (standardTag "bool"))
    match if readable then Plain.bool? content else none with
    | some flag => .ok flag
    | none => .error .malformed
  | data (.bool flag) => .ok flag
  | _ => .error .malformed

/-- The name of an alternative: a scalar, the tag of an empty one, or the name of the one field
of a data value, which is null. -/
def symbol : Node → Except DecodeError String
  | written content style tag =>
    match localTag? tag with
    | some name =>
      if style = .plain && (content.isEmpty || Plain.isNull content) then .ok name
      else .error .malformed
    | none => .ok content
  | data (.text content) => .ok content
  | data (.record [(name, .null)]) => .ok name
  | _ => .error .malformed

/-- Whether a tree stands for the absence of an optional value. -/
def isAbsent : Node → Except DecodeError Bool
  | written content .plain tag =>
    match tag with
    | none => .ok (content.isEmpty || Plain.isNull content)
    | some tag =>
      if tag = standardTag "null" then
        if Plain.isNull content then .ok true else .error .malformed
      else .ok false
  | data .null => .ok true
  | broken => .error .malformed
  | _ => .ok false

/-- An optional value. -/
def optional {α : Type} (read : Node → Except DecodeError α) (node : Node) :
    Except DecodeError (Option α) := do
  if ← node.isAbsent then return none
  return some (← read node)

/-! ### Readings of lists and records -/

/-- Whether a scalar is empty and plain, which reads as a list or a record without elements. -/
def isBlank : Node → Bool
  | written content .plain _ => content.isEmpty
  | _ => false

def items (node : Node) : Except DecodeError (List Node) :=
  match node with
  | list items => .ok items
  | data (.list items) => .ok (items.map data)
  | node => if node.isBlank then .ok [] else .error .malformed

def entries (node : Node) : Except DecodeError (List (Node × Node)) :=
  match node with
  | record entries => .ok entries
  | data (.record fields) => .ok (fields.map fun field => (data (.text field.1), data field.2))
  | node => if node.isBlank then .ok [] else .error .malformed

/-- A list of texts. -/
def texts (node : Node) : Except DecodeError (List String) := do
  (← node.items).mapM text

/-- A map from names to records; of two entries with one name the later counts. -/
def names {α : Type} (read : Node → Except DecodeError α) (node : Node) :
    Except DecodeError (List (String × α)) := do
  (← node.entries).mapM fun entry => do
    let name ← entry.1.text
    let value ← read entry.2
    return (name, value)

/-- Any value. -/
def value (node : Node) : Except DecodeError Value :=
  match node.value? with
  | some value => .ok value
  | none => .error .malformed

/-! ### Records with known fields -/

/-- The entries with known names up to the first entry that cannot be taken, because its key
is no scalar or its name occurred before; and whether all could be taken. -/
def knownFields (known : List String) :
    List String → List (Node × Node) → List (String × Node) × Bool
  | _, [] => ([], true)
  | seen, (key, node) :: rest =>
    match key.text with
    | .error _ => ([], false)
    | .ok name =>
      if name ∉ known then knownFields known seen rest
      else if name ∈ seen then ([], false)
      else
        let (fields, whole) := knownFields known (name :: seen) rest
        ((name, node) :: fields, whole)

/-- The known fields of a record that can be taken, and whether all could be. -/
def takenFields (known : List String) : Node → Except DecodeError (List (String × Node) × Bool)
  | data (.list items) => .ok (known.zip (items.map data), items.length ≤ known.length)
  | node => node.entries.map (knownFields known [])

/-- Read the known fields of a record in their order into a value that is changed by each.
Fields with other names are passed over. -/
def foldFields {α : Type} (known : List String)
    (read : α → String → Node → Except DecodeError α) (start : α) (node : Node) :
    Except DecodeError α := do
  let (fields, whole) ← node.takenFields known
  let result ← fields.foldlM (fun value field => read value field.1 field.2) start
  if whole then return result else throw .malformed

/-! ### Size -/

mutual

/-- How many marks a tree of a text is made of: a scalar and an alias are one each, and a list or a
record has one at either end. -/
def marks : Node → Nat
  | list items => marksOfItems items + 2
  | record entries => marksOfEntries entries + 2
  | broken => 0
  | _ => 1

def marksOfItems : List Node → Nat
  | [] => 0
  | node :: rest => marks node + marksOfItems rest

def marksOfEntries : List (Node × Node) → Nat
  | [] => 0
  | (key, node) :: rest => marks key + marks node + marksOfEntries rest

end

end Node

end CloudSpace.Yaml
