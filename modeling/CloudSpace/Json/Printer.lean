import CloudSpace.Value

/-!
# Writing JSON

Two layouts of a value: compact, without any blank, and indented by two spaces. Characters
outside ASCII are written as they are.
-/
namespace CloudSpace.Json

/-- The lower-case digits of a character's number, four of them. -/
def fourHexDigits (n : Nat) : String :=
  let digits := Nat.toDigits 16 n
  String.ofList (List.replicate (4 - digits.length) '0' ++ digits)

/-- How one character stands inside a string: quotes, backslashes and control characters are
escaped, by a letter where there is one. -/
def escape (c : Char) : String :=
  if c = '"' then "\\\""
  else if c = '\\' then "\\\\"
  else if c = '\n' then "\\n"
  else if c = '\r' then "\\r"
  else if c = '\t' then "\\t"
  else if c.toNat = 8 then "\\b"
  else if c.toNat = 12 then "\\f"
  else if c.toNat < 0x20 then "\\u" ++ fourHexDigits c.toNat
  else c.toString

/-- A string between its quotes. -/
def quote (content : String) : String :=
  content.foldl (fun written c => written ++ escape c) "\"" ++ "\""

/-- A number without a fraction keeps none; infinities and the like have no notation. -/
def floatText (number : Binary64) : String :=
  if number.isFinite then number.text else "null"

/-- The text of a scalar. -/
def scalar : Value → String
  | .null => "null"
  | .bool flag => if flag then "true" else "false"
  | .int number => toString number
  | .float number => floatText number
  | .text content => quote content
  | .list _ => "[]"
  | .record _ => "\x7b\x7d"

mutual

/-- The compact layout. -/
def compact : Value → String
  | .list items => "[" ++ compactItems items ++ "]"
  | .record fields => "\x7b" ++ compactFields fields ++ "\x7d"
  | value => scalar value

def compactItems : List Value → String
  | [] => ""
  | [value] => compact value
  | value :: rest => compact value ++ "," ++ compactItems rest

def compactFields : List (String × Value) → String
  | [] => ""
  | [(name, value)] => quote name ++ ":" ++ compact value
  | (name, value) :: rest => quote name ++ ":" ++ compact value ++ "," ++ compactFields rest

end

/-- A line break and the blanks of a level. -/
def newLine (level : Nat) : String :=
  "\n" ++ String.ofList (List.replicate (2 * level) ' ')

mutual

/-- The indented layout, inside `level` lists and records. -/
def prettyAt (level : Nat) : Value → String
  | .list [] => "[]"
  | .list items => "[" ++ prettyItems (level + 1) items ++ newLine level ++ "]"
  | .record [] => "\x7b\x7d"
  | .record fields => "\x7b" ++ prettyFields (level + 1) fields ++ newLine level ++ "\x7d"
  | value => scalar value

def prettyItems (level : Nat) : List Value → String
  | [] => ""
  | [value] => newLine level ++ prettyAt level value
  | value :: rest => newLine level ++ prettyAt level value ++ "," ++ prettyItems level rest

def prettyFields (level : Nat) : List (String × Value) → String
  | [] => ""
  | [(name, value)] => newLine level ++ quote name ++ ": " ++ prettyAt level value
  | (name, value) :: rest =>
    newLine level ++ quote name ++ ": " ++ prettyAt level value ++ "," ++ prettyFields level rest

end

/-- The indented layout. -/
def pretty (value : Value) : String := prettyAt 0 value

end CloudSpace.Json
