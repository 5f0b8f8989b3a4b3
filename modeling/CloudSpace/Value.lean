import CloudSpace.Decimal.Shortest

/-!
# Data values

What a structured text says, whatever notation it is written in: scalars with their types,
lists, and records whose fields keep their order. Documents are encoded to such values and
decoded from them; the notations are printers and readers of values.
-/
namespace CloudSpace

inductive Value
  | null
  | bool (flag : Bool)
  | int (number : Int)
  | float (number : Binary64)
  | text (content : String)
  | list (items : List Value)
  | record (fields : List (String × Value))
deriving Repr, BEq, Inhabited

namespace Value

/-- A record of texts, one field for each binding. -/
def ofTexts (bindings : List (String × String)) : Value :=
  .record (bindings.map fun binding => (binding.1, .text binding.2))

/-- The list of a list of texts. -/
def ofTextList (texts : List String) : Value := .list (texts.map .text)

/-- A text, or null where there is none. -/
def ofText? : Option String → Value
  | some content => .text content
  | none => .null

/-- A natural number. -/
def ofNat (n : Nat) : Value := .int n

/-- A field that is left out when it has no value. -/
def fieldOfText? (name : String) (content : Option String) : List (String × Value) :=
  content.toList.map fun text => (name, .text text)

/-- A field that is left out when its list is empty. -/
def fieldOfTextList (name : String) (texts : List String) : List (String × Value) :=
  if texts.isEmpty then [] else [(name, ofTextList texts)]

/-- A field that is left out when its map is empty. -/
def fieldOfTexts (name : String) (bindings : List (String × String)) : List (String × Value) :=
  if bindings.isEmpty then [] else [(name, ofTexts bindings)]

/-! ### Looking into values -/

/-- The fields of a record. -/
def fields? : Value → Option (List (String × Value))
  | .record fields => some fields
  | _ => none

/-- The value of a field of a record; of two with one name the later counts. -/
def get? (value : Value) (name : String) : Option Value :=
  match value with
  | .record fields => (fields.reverse.find? (fun field => field.1 == name)).map (·.2)
  | _ => none

def text? : Value → Option String
  | .text content => some content
  | _ => none

def items? : Value → Option (List Value)
  | .list items => some items
  | _ => none

/-- A number that a word of thirty-two bits holds. -/
def word32? : Value → Option UInt32
  | .int number => if 0 ≤ number ∧ number < wordSize 32 then some number.toNat.toUInt32 else none
  | _ => none

def bool? : Value → Option Bool
  | .bool flag => some flag
  | _ => none

/-- The texts of a list of texts. -/
def texts? (value : Value) : Option (List String) :=
  value.items?.bind fun items => items.mapM text?

/-! ### Fields that are asked for

Where a field cannot be read, the error is the name of what is missing or malformed. -/

/-- The text of a field. -/
def textOf (value : Value) (field : String) : Except String String :=
  match (value.get? field).bind text? with
  | some content => .ok content
  | none => .error field

/-- An optional field; null is as good as none. -/
def optionalOf {α : Type} (read : Value → Option α) (value : Value) (field : String) :
    Except String (Option α) :=
  match value.get? field with
  | none | some null => .ok none
  | some given =>
    match read given with
    | some result => .ok (some result)
    | none => .error field

/-- The list of texts of a field, empty where the field is missing. -/
def textsOf (value : Value) (field : String) : Except String (List String) :=
  match value.get? field with
  | none | some null => .ok []
  | some given =>
    match given.texts? with
    | some texts => .ok texts
    | none => .error "strings"

/-- The values of a field, none where the field is missing. -/
def itemsOf (value : Value) (field : String) : Except String (List Value) :=
  match value.get? field with
  | none | some null => .ok []
  | some (list items) => .ok items
  | some _ => .error field

end Value

end CloudSpace
