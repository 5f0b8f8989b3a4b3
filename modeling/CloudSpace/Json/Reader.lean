import CloudSpace.Text.Bytes
import CloudSpace.Value

/-!
# Reading JSON

A reader of the whole notation. A text is cut into a tree first, and the tree is then read as far
as a value of some shape is wanted. What nobody wants is passed over, even if nothing could be made
of it: a number out of range, half a character, or what stands too deep. Whole numbers that fit a
word of sixty-four bits, with or without a sign, stay whole; all others become binary
floating-point numbers. Records keep their fields in the order of the text, twice the same name
included.
-/
namespace CloudSpace.Json

open Text (hexValue?)

/-! ### Blanks and strings -/

def isSpace (c : Char) : Bool := c = ' ' || c = '\n' || c = '\t' || c = '\r'

def skipSpace (input : List Char) : List Char := input.dropWhile isSpace

/-- The number of four hexadecimal digits. -/
def fourHex? : List Char → Option (Nat × List Char)
  | a :: b :: c :: d :: rest => do
    let a ← hexValue? a
    let b ← hexValue? b
    let c ← hexValue? c
    let d ← hexValue? d
    some (((a * 16 + b) * 16 + c) * 16 + d, rest)
  | _ => none

/-- The second half of a character. -/
def secondHalf? : List Char → Option (Nat × List Char)
  | '\\' :: 'u' :: rest => (fourHex? rest).filter fun half => 0xDC00 ≤ half.1 && half.1 < 0xE000
  | _ => none

/-- The character of a numeric escape, which may take a second one for its other half. One half
alone is none. -/
def escapedCharacter? (input : List Char) : Option (Option Char × List Char) := do
  let (first, rest) ← fourHex? input
  if 0xD800 ≤ first ∧ first < 0xDC00 then
    match secondHalf? rest with
    | some (second, rest) =>
      some (some (Char.ofNat (0x10000 + (first - 0xD800) * 0x400 + (second - 0xDC00))), rest)
    | none => some (none, rest)
  else if 0xDC00 ≤ first ∧ first < 0xE000 then some (none, rest)
  else some (some (Char.ofNat first), rest)

/-- The character of an escape of one letter. -/
def letterEscape? : Char → Option Char
  | '"' => some '"'
  | '\\' => some '\\'
  | '/' => some '/'
  | 'b' => some (Char.ofNat 8)
  | 'f' => some (Char.ofNat 12)
  | 'n' => some '\n'
  | 'r' => some '\r'
  | 't' => some '\t'
  | _ => none

/-- The rest of a string after its opening quote: the characters, unless there is half of one among
them, and what comes after the closing quote. -/
def stringTail? : Nat → Option (List Char) → List Char → Option (Option String × List Char)
  | 0, _, _ => none
  | fuel + 1, read, input =>
    match input with
    | [] => none
    | '"' :: rest => some (read.map fun read => String.ofList read.reverse, rest)
    | '\\' :: 'u' :: rest => do
      let (c, rest) ← escapedCharacter? rest
      stringTail? fuel (c.bind fun c => read.map (c :: ·)) rest
    | '\\' :: letter :: rest => do
      let c ← letterEscape? letter
      stringTail? fuel (read.map (c :: ·)) rest
    | c :: rest =>
      -- A control character is only allowed as an escape.
      if c.toNat < 0x20 || c = '\\' then none else stringTail? fuel (read.map (c :: ·)) rest

/-- A string after its opening quote. -/
def string? (fuel : Nat) (input : List Char) : Option (Option String × List Char) :=
  stringTail? fuel (some []) input

/-! ### Numbers -/

/-- The greatest number of sixty-four bits. -/
def greatestWord : Nat := wordSize 64 - 1

/-- The digits of a number as far as they fit a word; further ones are only counted. -/
structure Significand where
  digits : Nat
  /-- The power of ten to scale by. -/
  power : Int := 0
  /-- Whether a digit was left out. -/
  clipped : Bool := false

/-- The digits before the point. From the first that does not fit, each raises the power. -/
def wholeDigits (read : Significand) : List Char → Significand × List Char
  | [] => (read, [])
  | c :: rest =>
    if c.isDigit then
      let next := read.digits * 10 + (c.toNat - 48)
      if read.clipped || greatestWord < next then
        wholeDigits { read with power := read.power + 1, clipped := true } rest
      else wholeDigits { read with digits := next } rest
    else (read, c :: rest)

/-- The digits after the point. From the first that does not fit, none counts. -/
def fractionDigits (read : Significand) : List Char → Significand × List Char
  | [] => (read, [])
  | c :: rest =>
    if c.isDigit then
      let next := read.digits * 10 + (c.toNat - 48)
      if greatestWord < next then (read, rest.dropWhile Char.isDigit)
      else fractionDigits { read with digits := next, power := read.power - 1 } rest
    else (read, c :: rest)

/-- The sign and the digits of an exponent. -/
def exponent? (input : List Char) : Option (Int × List Char) :=
  let (negative, input) := match input with
    | '+' :: rest => (false, rest)
    | '-' :: rest => (true, rest)
    | rest => (false, rest)
  let digits := input.takeWhile Char.isDigit
  if digits.isEmpty then none
  else
    let size : Int := digits.foldl (fun n c => n * 10 + (c.toNat - 48)) 0
    some (if negative then -size else size, input.dropWhile Char.isDigit)

/-- Scale by a power of ten: one rounded product or quotient for each table entry used, and
none past the range of the type. -/
def scale? : Nat → Binary64 → Int → Option Binary64
  | 0, number, _ => some number
  | fuel + 1, number, power =>
    if power.natAbs ≤ 308 then
      let factor := Binary64.ofNat (Nat.pow 10 power.natAbs)
      let scaled := if 0 ≤ power then number.mul factor else number.div factor
      if scaled.isFinite then some scaled else none
    -- A zero is one at every scale.
    else if number.isZero then some number
    else if 0 ≤ power then none
    else scale? fuel (number.div (Binary64.ofNat (Nat.pow 10 308))) (power + 308)

/-- The floating-point number of a significand. -/
def floatOf? (negative : Bool) (read : Significand) : Option Value := do
  let number ← scale? 8 (Binary64.ofNat read.digits) read.power
  some (.float (if negative then number.neg else number))

/-- A number without fraction and exponent. A negative zero, and what no word of sixty-four
bits holds, is a floating-point number. -/
def wholeNumber? (negative : Bool) (read : Significand) : Option Value :=
  if read.clipped then floatOf? negative read
  else if negative then
    if read.digits = 0 || wordSize 63 < read.digits then floatOf? true read
    else some (.int (-(read.digits : Int)))
  else some (.int read.digits)

/-- A number after its sign: its value, unless that is out of range, and what comes after it. -/
def number? (negative : Bool) (input : List Char) : Option (Option Value × List Char) := do
  let start := input.takeWhile Char.isDigit
  -- A zero stands first only where it is the only digit before the point.
  if start.isEmpty || (2 ≤ start.length && start.head? = some '0') then none
  let (read, rest) := wholeDigits { digits := 0 } input
  let (fraction, read, rest) ← match rest with
    | '.' :: rest =>
      if (rest.takeWhile Char.isDigit).isEmpty then none
      else
        let (read, rest) := fractionDigits read rest
        some (true, read, rest)
    | rest => some (false, read, rest)
  let plain := if fraction then floatOf? negative read else wholeNumber? negative read
  match rest with
  | mark :: tail =>
    if mark = 'e' || mark = 'E' then
      let (power, tail) ← exponent? tail
      some (floatOf? negative { read with power := read.power + power }, tail)
    else some (plain, rest)
  | [] => some (plain, [])

/-! ### Trees -/

/-- What a text is made of. -/
inductive Tree
  | null
  | bool (value : Bool)
  /-- A number, unless it is out of range. -/
  | number (value? : Option Value)
  /-- A string, unless it has half a character. -/
  | text (content? : Option String)
  | list (items : List Tree)
  | record (fields : List (Option String × Tree))

mutual

/-- The tree at the beginning of a text. -/
def tree? : Nat → List Char → Option (Tree × List Char)
  | 0, _ => none
  | fuel + 1, input =>
    match skipSpace input with
    | 'n' :: 'u' :: 'l' :: 'l' :: rest => some (.null, rest)
    | 't' :: 'r' :: 'u' :: 'e' :: rest => some (.bool true, rest)
    | 'f' :: 'a' :: 'l' :: 's' :: 'e' :: rest => some (.bool false, rest)
    | '"' :: rest => (string? fuel rest).map fun (content?, rest) => (.text content?, rest)
    | '-' :: rest => (number? true rest).map fun (value?, rest) => (.number value?, rest)
    | '[' :: rest =>
      match skipSpace rest with
      | ']' :: rest => some (.list [], rest)
      | rest => (items? fuel rest).map fun (items, rest) => (.list items, rest)
    | '\x7b' :: rest =>
      match skipSpace rest with
      | '\x7d' :: rest => some (.record [], rest)
      | rest => (fields? fuel rest).map fun (fields, rest) => (.record fields, rest)
    | rest => (number? false rest).map fun (value?, rest) => (.number value?, rest)

/-- The items of a list up to its bracket. -/
def items? : Nat → List Char → Option (List Tree × List Char)
  | 0, _ => none
  | fuel + 1, input => do
    let (item, rest) ← tree? fuel input
    match skipSpace rest with
    | ',' :: rest =>
      let (items, rest) ← items? fuel rest
      some (item :: items, rest)
    | ']' :: rest => some ([item], rest)
    | _ => none

/-- The fields of a record up to its brace. -/
def fields? : Nat → List Char → Option (List (Option String × Tree) × List Char)
  | 0, _ => none
  | fuel + 1, input => do
    match skipSpace input with
    | '"' :: rest =>
      let (name?, rest) ← string? fuel rest
      match skipSpace rest with
      | ':' :: rest =>
        let (content, rest) ← tree? fuel rest
        match skipSpace rest with
        | ',' :: rest =>
          let (fields, rest) ← fields? fuel rest
          some ((name?, content) :: fields, rest)
        | '\x7d' :: rest => some ([(name?, content)], rest)
        | _ => none
      | _ => none
    | _ => none

end

/-! ### What is wanted -/

/-- The shape of what is wanted. -/
inductive Wanted
  /-- All there is. -/
  | value
  /-- A list of things of one shape. -/
  | list (item : Wanted)
  /-- A record of which some fields are wanted. A list may stand for it, with so many items at
  least, which are the fields in their order. -/
  | record (fields : List (String × Wanted)) (least : Nat)

namespace Wanted

/-- What is wanted of the items of a list, if it can be a list. -/
def ofItems? : Wanted → Nat → Option (List Wanted)
  | list item, count => some (List.replicate count item)
  | record fields least, count =>
    if least ≤ count ∧ count ≤ fields.length then some ((fields.take count).map (·.2)) else none
  | _, count => some (List.replicate count value)

/-- What is wanted of a field with a name, if anything is. -/
def ofField? : Wanted → String → Option Wanted
  | record fields _, name => fields.lookup name
  | _, _ => some value

/-- The value of a list with some items. -/
def ofList : Wanted → List Value → Value
  | record fields _, items => .record ((fields.map (·.1)).zip items)
  | _, items => .list items

end Wanted

mutual

/-- The value of a tree as far as it is wanted, with less than `depth` lists and records one in the
other. -/
def Tree.read? (depth : Nat) (wanted : Wanted) : Tree → Option Value
  | .null => some .null
  | .bool value => some (.bool value)
  | .number value? => value?
  | .text content? => content?.map .text
  | .list items =>
    -- The innermost depth has room only for what has no parts.
    if depth ≤ 1 then none
    else (wanted.ofItems? items.length).bind fun each =>
      (readItems? (depth - 1) each items).map wanted.ofList
  | .record fields =>
    if depth ≤ 1 then none else (readFields? (depth - 1) wanted fields).map .record

/-- The values of some items, of each as far as it is wanted. -/
def readItems? (depth : Nat) : List Wanted → List Tree → Option (List Value)
  | wanted :: others, item :: items => do
    let value ← item.read? depth wanted
    let values ← readItems? depth others items
    some (value :: values)
  | _, _ => some []

/-- The fields that are wanted of some. Their names all have to be texts. -/
def readFields? (depth : Nat) (wanted : Wanted) :
    List (Option String × Tree) → Option (List (String × Value))
  | [] => some []
  -- A name that is no text spoils a record, wanted or not.
  | (none, _) :: _ => none
  | (some name, content) :: rest =>
    match wanted.ofField? name with
    | some inner => do
      let value ← content.read? depth inner
      let values ← readFields? depth wanted rest
      some ((name, value) :: values)
    | none => readFields? depth wanted rest

end

/-- The value that a text holds as far as it is wanted, if the text holds one and nothing after
it. -/
def read? (wanted : Wanted) (content : String) : Option Value :=
  let input := content.toList
  -- No character takes more than two steps.
  match tree? (2 * input.length + 2) input with
  | some (tree, rest) => if (skipSpace rest).isEmpty then tree.read? 128 wanted else none
  | none => none

/-- The whole value that a text holds. -/
def parse? (content : String) : Option Value := read? .value content

end CloudSpace.Json
