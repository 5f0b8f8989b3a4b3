/-!
# Places in a text

What is left of a text, with the line and the column reached. A line ends at one of five
characters, and a carriage return together with the line feed after it is one end. Columns are
counted in characters, the way through the whole text in bytes of UTF-8.
-/
namespace CloudSpace.Yaml

/-- Characters a text may hold at all: no control characters but those that separate. -/
def isAllowed (c : Char) : Bool :=
  let n := c.toNat
  n == 0x09 || n == 0x0A || n == 0x0D || (0x20 ≤ n && n ≤ 0x7E) || n == 0x85 ||
    (0xA0 ≤ n && n ≤ 0xD7FF) || (0xE000 ≤ n && n ≤ 0xFFFD) || 0x10000 ≤ n

/-- The mark of the byte order, which may stand at the start of a line. -/
def isByteOrderMark (c : Char) : Bool := c.toNat == 0xFEFF

/-- Characters that end a line. -/
def isBreak (c : Char) : Bool :=
  c = '\n' || c = '\r' || c.toNat == 0x85 || c.toNat == 0x2028 || c.toNat == 0x2029

/-- Characters that separate within a line. -/
def isGap (c : Char) : Bool := c = ' ' || c = '\t'

/-- Characters of names: letters, digits, hyphens and underscores of ASCII. -/
def isNameChar (c : Char) : Bool := c.isAlphanum || c = '_' || c = '-'

structure Place where
  rest : List Char
  /-- A number of characters that is not less than the number of those left. -/
  bound : Nat
  /-- Bytes read so far. -/
  index : Nat := 0
  line : Nat := 0
  column : Nat := 0
deriving Repr, Inhabited

namespace Place

/-- The character at a distance. -/
def ahead (place : Place) (distance : Nat) : Option Char := place.rest[distance]?

/-- Whether the next character is this one. -/
def isAt (place : Place) (c : Char) : Bool := place.rest.head? = some c

/-- Whether a separating character, the end of a line or the end of the text is at a distance. -/
def endsAt (place : Place) (distance : Nat) : Bool :=
  match place.ahead distance with
  | none => true
  | some c => isGap c || isBreak c

/-- Whether a line or the text ends here. -/
def lineEnds (place : Place) : Bool :=
  match place.rest with
  | [] => true
  | c :: _ => isBreak c

/-- Pass one character within a line. -/
def skip (place : Place) : Place :=
  match place.rest with
  | c :: rest => { place with rest, index := place.index + c.utf8Size, column := place.column + 1 }
  | [] => place

/-- Pass a number of characters within a line. -/
def skipMany : Nat → Place → Place
  | 0, place => place
  | count + 1, place => skipMany count place.skip

/-- Pass the end of a line; what it counts as is a line feed, except that the two separators of
Unicode count as themselves. -/
def readBreak (place : Place) : Option Char × Place :=
  let next (rest : List Char) (size : Nat) : Place :=
    { place with rest, index := place.index + size, line := place.line + 1, column := 0 }
  match place.rest with
  | '\r' :: '\n' :: rest => (some '\n', next rest 2)
  | c :: rest =>
    if c = '\r' || c = '\n' || c.toNat == 0x85 then (some '\n', next rest c.utf8Size)
    else if isBreak c then (some c, next rest c.utf8Size)
    else (none, place)
  | [] => (none, place)

/-- Pass the end of a line, if there is one. -/
def skipBreak (place : Place) : Place := place.readBreak.2

/-- Pass the characters of a class within a line; with them, what was passed. -/
def readWhile (place : Place) (accept : Char → Bool) : List Char × Place :=
  let run := place.rest.takeWhile accept
  (run, { place with
    rest := place.rest.drop run.length
    index := run.foldl (fun index c => index + c.utf8Size) place.index
    column := place.column + run.length })

/-- Pass the characters of a class within a line. -/
def skipWhile (place : Place) (accept : Char → Bool) : Place := (place.readWhile accept).2

/-- Whether a mark of a document stands at the start of this line. -/
def atDocumentMark (place : Place) : Bool :=
  place.column = 0 && place.endsAt 3 &&
    (place.rest.take 3 = ['-', '-', '-'] || place.rest.take 3 = ['.', '.', '.'])

end Place

end CloudSpace.Yaml
