import CloudSpace.Value
import CloudSpace.Yaml.Place
import CloudSpace.Yaml.Plain

/-!
# Writing YAML

The block layout of a value. Records are indented by two blanks for each level, and a list that
is the value of a field is not indented further than the field. A text is written plain where
that reads back as the same text, as a literal block where it has line feeds, and in single or
double quotes otherwise. A key that cannot stand in front of its colon is marked as one, and its
value follows on a line of its own.
-/
namespace CloudSpace.Yaml

/-! ### Which notations a text allows -/

/-- Characters that may stand in a text without an escape. -/
def isPrintable (c : Char) : Bool :=
  let n := c.toNat
  n == 0x0A || (0x20 ≤ n && n ≤ 0x7E) || (0xA0 ≤ n && n ≤ 0xD7FF) ||
    (0xE000 ≤ n && n ≤ 0xFFFD && n != 0xFEFF) || 0x10000 ≤ n

/-- Characters after which a mark counts as a mark. -/
def isSeparator (c : Char) : Bool := isGap c || isBreak c || c.toNat == 0

/-- Whether some character of a text is followed by another. -/
def hasPair (first second : Char → Bool) : List Char → Bool
  | a :: b :: rest => (first a && second b) || hasPair first second (b :: rest)
  | _ => false

/-- Whether a text has a colon with nothing, or a separator, after it. -/
def hasKeyMark : List Char → Bool
  | [] => false
  | [c] => c = ':'
  | a :: b :: rest => (a = ':' && isSeparator b) || hasKeyMark (b :: rest)

/-- Whether a text starts like something other than a text. -/
def startsWithMark (content : List Char) : Bool :=
  match content with
  | [] => false
  | c :: rest =>
    content.take 3 = ['-', '-', '-'] || content.take 3 = ['.', '.', '.'] ||
      "#,[]\x7b\x7d&*!|>'\"%@`".toList.contains c ||
      ((c = '?' || c = ':' || c = '-') && rest.head?.all isSeparator)

/-- The notations a text allows in a block context. -/
structure Shape where
  multiline : Bool
  plain : Bool
  single : Bool
  literal : Bool

def shape (content : List Char) : Shape :=
  if content.isEmpty then ⟨false, true, true, false⟩
  else
    let special := content.any (!isPrintable ·)
    let multiline := content.any isBreak
    let isSpace (c : Char) : Bool := c = ' '
    let padded := content.head?.any (fun c => isSpace c || isBreak c) ||
      content.getLast?.any (fun c => isSpace c || isBreak c)
    let breakSpace := hasPair isBreak isSpace content
    let spaceBreak := hasPair isSpace isBreak content
    let marked := startsWithMark content || hasKeyMark content ||
      hasPair isSeparator (· = '#') content
    { multiline
      plain := !(special || multiline || padded || marked)
      single := !(special || breakSpace || spaceBreak)
      literal := !(special || spaceBreak || content.getLast?.any isSpace) }

/-! ### The notations -/

def blanks (count : Nat) : String := String.ofList (List.replicate count ' ')

/-- Upper-case hexadecimal digits, at least `width` of them. -/
def upperHex (width n : Nat) : String :=
  let digits := (Nat.toDigits 16 n).map Char.toUpper
  String.ofList (List.replicate (width - digits.length) '0' ++ digits)

/-- How one character stands between double quotes. -/
def escape (c : Char) : String :=
  let n := c.toNat
  if c = '"' then "\\\""
  else if c = '\\' then "\\\\"
  else if isPrintable c && !isBreak c then c.toString
  else if n = 0 then "\\0"
  else if n = 7 then "\\a"
  else if n = 8 then "\\b"
  else if n = 9 then "\\t"
  else if n = 10 then "\\n"
  else if n = 11 then "\\v"
  else if n = 12 then "\\f"
  else if n = 13 then "\\r"
  else if n = 27 then "\\e"
  else if n = 0x85 then "\\N"
  else if n = 0x2028 then "\\L"
  else if n = 0x2029 then "\\P"
  else if n ≤ 0xFF then "\\x" ++ upperHex 2 n
  else if n ≤ 0xFFFF then "\\u" ++ upperHex 4 n
  else "\\U" ++ upperHex 8 n

def doubleQuoted (content : List Char) : String :=
  content.foldl (fun written c => written ++ escape c) "\"" ++ "\""

/-- The text between single quotes. After a line separator the next line is indented. -/
def singleQuotedFrom (indent : Nat) (broken : Bool) : List Char → String
  | [] => if broken then blanks indent else ""
  | c :: rest =>
    if isBreak c then c.toString ++ singleQuotedFrom indent true rest
    else
      (if broken then blanks indent else "") ++ (if c = '\'' then "''" else c.toString) ++
        singleQuotedFrom indent false rest

def singleQuoted (indent : Nat) (content : List Char) : String :=
  "'" ++ singleQuotedFrom indent false content ++ "'"

/-- The lines of a literal block, of which those that are not empty are indented. -/
def literalFrom (indent : Nat) (broken : Bool) : List Char → String
  | [] => ""
  | c :: rest =>
    if isBreak c then c.toString ++ literalFrom indent true rest
    else (if broken then blanks indent else "") ++ c.toString ++ literalFrom indent false rest

/-- The marks of a literal block: an indentation where the first line would hide it, and what
becomes of the line ends after the last line. -/
def literalMarks (content : List Char) : String :=
  let indentation := if content.head?.any (fun c => c = ' ' || isBreak c) then "2" else ""
  let chomping := match content.reverse with
    | [] => "-"
    | last :: rest =>
      if !isBreak last then "-"
      else if rest.head?.all isBreak then "+"
      else ""
  indentation ++ chomping

/-- A literal block with its lines at an indentation. -/
def literal (indent : Nat) (content : List Char) : String :=
  "|" ++ literalMarks content ++ "\n" ++ literalFrom indent true content

/-- A text in the simplest notation that it allows. -/
def textScalar (indent : Nat) (asKey : Bool) (content : String) : String :=
  let chars := content.toList
  let shape := shape chars
  if chars.contains '\n' then
    if shape.literal && !asKey then literal indent chars else doubleQuoted chars
  else
    let readsAsText := Plain.resolve content == .text && !Plain.isZeroPadded chars
    if readsAsText && shape.plain then content
    else if shape.single then singleQuoted indent chars
    else doubleQuoted chars

/-- A scalar; what has a type of its own is never quoted. -/
def scalar (indent : Nat) (asKey : Bool) : Value → String
  | .null => "null"
  | .bool flag => if flag then "true" else "false"
  | .int number => toString number
  | .float number => number.text
  | .text content => textScalar indent asKey content
  | .list _ => "[]"
  | .record _ => "\x7b\x7d"

/-! ### Layout -/

/-- Whether a text may stand in front of its colon: on one line of at most 128 bytes. -/
def isSimpleKey (key : String) : Bool :=
  !key.toList.any isBreak && key.utf8ByteSize ≤ 128

/-- Begin a new line after what has been written, which a block may have done already. -/
def freshLine (written : String) : String :=
  if written.toList.getLast?.all isBreak then written else written ++ "\n"

/-- The lines of several parts at one indentation, of which the first stands where it is. -/
def stack (indent : Nat) : List String → String
  | [] => ""
  | [part] => part
  | part :: rest => freshLine part ++ blanks indent ++ stack indent rest

mutual

/-- A value as part of a line, inside a collection at an indentation. -/
def inlineAt (indent : Nat) : Value → String
  | .list (item :: rest) => stack (indent + 2) (itemsAt (indent + 2) (item :: rest))
  | .record (field :: rest) => stack (indent + 2) (fieldsAt (indent + 2) (field :: rest))
  | value => scalar (indent + 2) false value

/-- The items of a list, each after its mark. -/
def itemsAt (indent : Nat) : List Value → List String
  | [] => []
  | value :: rest => ("- " ++ inlineAt indent value) :: itemsAt indent rest

/-- The value of a field after its colon. -/
def afterColon (indent : Nat) : Value → String
  | .list (item :: rest) =>
    "\n" ++ blanks indent ++ stack indent (itemsAt indent (item :: rest))
  | .record (field :: rest) =>
    "\n" ++ blanks (indent + 2) ++ stack (indent + 2) (fieldsAt (indent + 2) (field :: rest))
  | value => " " ++ scalar (indent + 2) false value

/-- The fields of a record. -/
def fieldsAt (indent : Nat) : List (String × Value) → List String
  | [] => []
  | (key, value) :: rest =>
    (if isSimpleKey key then textScalar (indent + 2) true key ++ ":" ++ afterColon indent value
    else
      freshLine ("? " ++ textScalar (indent + 2) false key) ++ blanks indent ++ ": " ++
        inlineAt indent value) :: fieldsAt indent rest

end

/-- The text of a value. -/
def print (value : Value) : String :=
  freshLine (match value with
    | .list (item :: rest) => stack 0 (itemsAt 0 (item :: rest))
    | .record (field :: rest) => stack 0 (fieldsAt 0 (field :: rest))
    | value => scalar 2 false value)

end CloudSpace.Yaml
