import CloudSpace.Environment
import CloudSpace.Files
import CloudSpace.Text.Character

/-!
# Files of variables

A file with one assignment on each line, `NAME=value`, sets the variables that are not set yet.
A value may be quoted, a quoted one may run over several lines, and outside of single quotes
`$NAME` stands for the value of a variable. What comes before a line that cannot be read has
been set by then.
-/
namespace CloudSpace.Dotenv

open Text (isBlank isAlphanumeric)

/-! ### Lines -/

/-- Where in a line a character stands, as far as the end of an assignment depends on it. -/
inductive Position
  | value
  | escaped
  | singleQuoted
  | singleEscaped
  | doubleQuoted
  | doubleEscaped
  /-- After a blank, where a comment may begin. -/
  | blank
deriving DecidableEq, Repr

/-- The position after a character outside of quotes that neither is a blank nor begins a
comment. -/
def Position.unquoted (c : Char) : Position :=
  if c = '\\' then .escaped
  else if c = '"' then .doubleQuoted
  else if c = '\'' then .singleQuoted
  else .value

/-- The position after one more character. -/
def Position.next (position : Position) (c : Char) : Position :=
  match position with
  | .value =>
    if isBlank c && c != '\n' && c != '\r' then .blank else unquoted c
  | .blank => unquoted c
  | .escaped => .value
  | .singleQuoted =>
    if c = '\\' then .singleEscaped else if c = '\'' then .value else .singleQuoted
  | .singleEscaped => .singleQuoted
  | .doubleQuoted =>
    if c = '\\' then .doubleEscaped else if c = '"' then .value else .doubleQuoted
  | .doubleEscaped => .doubleQuoted

/-- A line up to a comment, whether there is one, and the position at its end. -/
def scan : Position → List Char → List Char × Option Position
  | position, [] => ([], some position)
  | position, c :: rest =>
    if position = .blank ∧ c = '#' then ([], none)
    else
      let (line, final) := scan (position.next c) rest
      (c :: line, final)

/-- A line without the characters that end it. -/
def withoutEnd (line : List Char) : List Char :=
  match line.reverse with
  | '\n' :: '\r' :: rest => rest.reverse
  | '\n' :: rest => rest.reverse
  | _ => line

/-- Put lines together to assignments. An assignment takes further lines until one ends it;
`none` marks the place where that, or the text of a line, is missing. -/
def assignments : List (Option (List Char)) → List Char → Position → List (Option (List Char))
  | [], _, .value => []
  | [], _, _ => [none]
  | none :: _, _, _ => [none]
  | some line :: rest, taken, position =>
    let whole := taken ++ line
    -- A comment takes its whole line.
    if (whole.dropWhile isBlank).head? = some '#' then some [] :: assignments rest [] .value
    else
      match scan position line with
      | (kept, none) => some (taken ++ kept) :: assignments rest [] .value
      | (_, some .value) => some (withoutEnd whole) :: assignments rest [] .value
      | (_, some final) => assignments rest whole final

/-! ### Values -/

/-- What is known when a value is read: the environment, and what the file has assigned. -/
structure Known where
  environment : Environment
  assigned : NameMap String := ∅

/-- The text that stands for a name; a variable of the environment comes first. -/
def Known.lookUp (known : Known) (name : List Char) : List Char :=
  let name := String.ofList name
  (((known.environment.get? name).or (known.assigned.get? name)).getD "").toList

/-- Where in a value a character stands. -/
inductive Mode
  | plain
  | single
  | double
  /-- After a backslash, inside double quotes or not. -/
  | escape (quoted : Bool)
  /-- In a name after a dollar sign. -/
  | name (quoted : Bool) (read : List Char)
  /-- In a name between braces. -/
  | braced (quoted : Bool) (read : List Char)
  /-- After a blank, where only a comment may follow. -/
  | ended
deriving DecidableEq, Repr

/-- The mode inside or outside of double quotes. -/
def Mode.ofQuoted (quoted : Bool) : Mode := if quoted then .double else .plain

/-- The character that an escaped one stands for. -/
def escapedCharacter? (c : Char) : Option Char :=
  if c = 'n' then some '\n'
  else if c = '\\' || c = '\'' || c = '"' || c = '$' || c = ' ' then some c
  else none

/-- The value of the rest of an assignment. -/
def value? (known : Known) : Mode → List Char → Option (List Char)
  | .plain, [] => some []
  | .ended, [] => some []
  | .escape false, [] => some []
  | .name false read, [] => some (known.lookUp read)
  | _, [] => none
  | .ended, c :: rest =>
    if c = ' ' || c = '\t' then value? known .ended rest
    else if c = '#' then some []
    else none
  | .escape quoted, c :: rest =>
    match escapedCharacter? c with
    | some meant => (value? known (.ofQuoted quoted) rest).map (meant :: ·)
    | none => none
  | .single, c :: rest =>
    if c = '\'' then value? known .plain rest else (value? known .single rest).map (c :: ·)
  | .name quoted read, c :: rest =>
    if isAlphanumeric c then value? known (.name quoted (read ++ [c])) rest
    else if c = '{' && read.isEmpty then value? known (.braced quoted []) rest
    else if c = '$' then (value? known (.name quoted []) rest).map (known.lookUp read ++ ·)
    -- The character that ends a name is taken as it is, even a quote.
    else (value? known (.ofQuoted quoted) rest).map (known.lookUp read ++ c :: ·)
  | .braced quoted read, c :: rest =>
    if c = '}' then
      (value? known (.ofQuoted quoted) rest).map (known.lookUp read ++ ·)
    else value? known (.braced quoted (read ++ [c])) rest
  | .double, c :: rest =>
    if c = '$' then value? known (.name true []) rest
    else if c = '"' then value? known .plain rest
    else if c = '\\' then value? known (.escape true) rest
    else (value? known .double rest).map (c :: ·)
  | .plain, c :: rest =>
    if c = '$' then value? known (.name false []) rest
    else if c = '\'' then value? known .single rest
    else if c = '"' then value? known .double rest
    else if c = '\\' then value? known (.escape false) rest
    else if c = ' ' || c = '\t' then value? known .ended rest
    else (value? known .plain rest).map (c :: ·)

/-! ### Assignments -/

def isNameStart (c : Char) : Bool := c.isAlpha || c = '_'

def isNamePart (c : Char) : Bool := c.isAlphanum || c = '_' || c = '.'

/-- The name at the start of a text. -/
def name? (text : List Char) : Option (String × List Char) :=
  match text with
  | first :: _ =>
    if isNameStart first then
      some (String.ofList (text.takeWhile isNamePart), text.dropWhile isNamePart)
    else none
  | [] => none

/-- What follows the sign between name and value. -/
def afterSign? (text : List Char) : Option (List Char) :=
  match text.dropWhile isBlank with
  | '=' :: rest => some (rest.dropWhile isBlank)
  | _ => none

/-- The name of an assignment, which may stand after the word `export`, and its value. -/
def split? (text : List Char) : Option (String × List Char) := do
  let (name, rest) ← name? text
  match afterSign? rest with
  | some value => return (name, value)
  | none =>
    if name = "export" then
      let (name, rest) ← name? (rest.dropWhile isBlank)
      return (name, ← afterSign? rest)
    else none

def isIgnored (text : List Char) : Bool := text.isEmpty || text.head? = some '#'

/-- What one assignment makes of what is known. A name that is set keeps its value. -/
def assign? (known : Known) (line : List Char) : Option Known := do
  let text := (line.reverse.dropWhile isBlank).reverse.dropWhile isBlank
  if isIgnored text then return known
  let (name, rest) ← split? text
  let value ← if isIgnored rest then some "" else (value? known .plain rest).map String.ofList
  let assigned := known.assigned.insert name value
  -- What the environment holds stands above the file.
  if known.environment.contains name then return { known with assigned }
  return { environment := known.environment.insert name value, assigned }

/-- What is known after the assignments up to the first that cannot be read, and whether all
could be read. -/
def assignAll : Known → List (Option (List Char)) → Known × Bool
  | known, [] => (known, true)
  | known, none :: _ => (known, false)
  | known, some line :: rest =>
    match assign? known line with
    | some known => assignAll known rest
    | none => (known, false)

/-! ### Files -/

/-- The lines of a file, each with the characters that end it, as texts. -/
def linesOf (content : List UInt8) : List (Option (List Char)) :=
  (lines content []).map fun line => (Text.ofUtf8? line).map String.toList
where
  lines : List UInt8 → List UInt8 → List (List UInt8)
    | [], [] => []
    | [], taken => [taken.reverse]
    | byte :: rest, taken =>
      if byte = 10 then (byte :: taken).reverse :: lines rest [] else lines rest (byte :: taken)

/-- A file without the mark of its encoding. -/
def withoutMark : List UInt8 → List UInt8
  | 0xEF :: 0xBB :: 0xBF :: rest => rest
  | content => content

/-- The environment after a file, and whether all of the file could be read. -/
def load (environment : Environment) (content : List UInt8) : Environment × Bool :=
  let (known, whole) :=
    assignAll { environment } (assignments (linesOf (withoutMark content)) [] .value)
  (known.environment, whole)

/-- The path of the file in a directory. -/
def pathIn (directory : Option String) : String :=
  match directory with
  | some directory => FilePath.join directory ".env"
  | none => ".env"

/-- The environment after the file of variables at a path, if there is one, and the error of a
file that cannot be read. -/
def ofEntry (environment : Environment) (path : String) (entry : Option Entry) :
    Environment × Option Error :=
  let failed : Error := .config (.unreadable "Failed to load .env file: not readable" (some path))
  match entry with
  | none => (environment, none)
  | some (.file content) =>
    match load environment content with
    | (environment, true) => (environment, none)
    | (environment, false) => (environment, some failed)
  | some _ => (environment, some failed)

end CloudSpace.Dotenv
