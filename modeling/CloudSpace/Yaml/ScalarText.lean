import CloudSpace.Text.Bytes
import CloudSpace.Yaml.Place

/-!
# Texts of scalars

The three notations of a scalar: plain words, quoted texts, and indented blocks. In the first
two a line break stands for a blank, and more of them for all but the first; in a block the
breaks are kept, or joined to blanks between lines that do not start with one.
-/
namespace CloudSpace.Yaml

/-! ### Gaps between words -/

/-- What separates two words: blanks in one line, or line breaks. -/
structure Gap where
  /-- Blanks within a line, latest first. -/
  blanks : List Char := []
  /-- Whether a line has ended. -/
  broken : Bool := false
  first : Option Char := none
  /-- The breaks after the first, latest first. -/
  more : List Char := []
deriving Inhabited

namespace Gap

/-- What a gap stands for inside a scalar. -/
def text (gap : Gap) : List Char :=
  if gap.broken then
    match gap.first with
    -- One break alone is folded to a blank, and of several the first is left out.
    | some '\n' => if gap.more.isEmpty then [' '] else gap.more.reverse
    | some c => c :: gap.more.reverse
    | none => gap.more.reverse
  else gap.blanks.reverse

def addBlank (gap : Gap) (c : Char) : Gap :=
  if gap.broken then gap else { gap with blanks := c :: gap.blanks }

def addBreak (gap : Gap) (c : Char) : Gap :=
  if gap.broken then { gap with more := c :: gap.more }
  else { blanks := [], broken := true, first := some c }

/-- Pass a gap. A tab to the left of `limit` is an error on any line but the first. -/
def read (limit : Option Nat) : Nat → Gap → Place → Option (Gap × Place)
  | 0, gap, place => some (gap, place)
  | fuel + 1, gap, place =>
    match place.rest with
    | [] => some (gap, place)
    | c :: _ =>
      if isGap c then
        if gap.broken && c = '\t' && limit.any (place.column < ·) then none
        else read limit fuel (gap.addBlank c) place.skip
      else
        match place.readBreak with
        | (some c, place) => read limit fuel (gap.addBreak c) place
        | (none, place) => some (gap, place)

end Gap

/-! ### Plain scalars -/

/-- Characters that end a plain word inside brackets. -/
def isBracketMark (c : Char) : Bool :=
  c = ',' || c = '[' || c = ']' || c = '\x7b' || c = '\x7d'

/-- Read a word, with the gap before it once it has begun. The characters are latest first. -/
def plainWord (inBrackets : Bool) :
    Nat → List Char → Gap → Place → Option (List Char × Gap × Place)
  | 0, read, gap, place => some (read, gap, place)
  | fuel + 1, read, gap, place =>
    match place.rest with
    | [] => some (read, gap, place)
    | c :: _ =>
      if isGap c || isBreak c then some (read, gap, place)
      -- A word may hold a colon, but not right before one of these marks.
      else if inBrackets && c = ':' &&
          (place.ahead 1).any (fun next => isBracketMark next || next = '?') then none
      else if (c = ':' && place.endsAt 1) || (inBrackets && isBracketMark c) then
        some (read, gap, place)
      else plainWord inBrackets fuel (c :: (gap.text.reverse ++ read)) {} place.skip

/-- The words of a plain scalar up to where it ends; whether the last gap has a line break. -/
def plainWords (inBrackets : Bool) (indent : Nat) :
    Nat → List Char → Gap → Place → Option (List Char × Bool × Place)
  | 0, read, gap, place => some (read, gap.broken, place)
  | fuel + 1, read, gap, place =>
    -- A comment has to follow a gap, so it is looked for only here.
    if place.atDocumentMark || place.isAt '#' then some (read, gap.broken, place)
    else do
      let (read, gap, place) ← plainWord inBrackets (place.bound + 1) read gap place
      match place.rest with
      | [] => some (read, gap.broken, place)
      | c :: _ =>
        if !(isGap c || isBreak c) then some (read, gap.broken, place)
        else
          let (gap, place) ← Gap.read (some indent) (place.bound + 1) gap place
          -- A line that is indented less belongs to what is around the scalar.
          if !inBrackets && place.column < indent then some (read, gap.broken, place)
          else plainWords inBrackets indent fuel read gap place

/-- A plain scalar, whose lines after the first are indented by at least `indent`. -/
def plainScalar (inBrackets : Bool) (indent : Nat) (place : Place) :
    Option (String × Bool × Place) :=
  (plainWords inBrackets indent (place.bound + 1) [] {} place).map
    fun (read, broken, place) => (String.ofList read.reverse, broken, place)

/-! ### Quoted scalars -/

/-- The character of an escape of one letter. -/
def letterEscape? : Char → Option Char
  | '0' => some (Char.ofNat 0)
  | 'a' => some (Char.ofNat 7)
  | 'b' => some (Char.ofNat 8)
  | 't' => some '\t'
  | '\t' => some '\t'
  | 'n' => some '\n'
  | 'v' => some (Char.ofNat 11)
  | 'f' => some (Char.ofNat 12)
  | 'r' => some '\r'
  | 'e' => some (Char.ofNat 27)
  | ' ' => some ' '
  | '"' => some '"'
  | '/' => some '/'
  | '\\' => some '\\'
  | 'N' => some (Char.ofNat 0x85)
  | '_' => some (Char.ofNat 0xA0)
  | 'L' => some (Char.ofNat 0x2028)
  | 'P' => some (Char.ofNat 0x2029)
  | _ => none

/-- How many digits follow the letter of a numeric escape. -/
def escapeWidth? : Char → Option Nat
  | 'x' => some 2
  | 'u' => some 4
  | 'U' => some 8
  | _ => none

/-- The character of a numeric escape. -/
def numericEscape? (width : Nat) (digits : List Char) : Option Char := do
  let digits := digits.take width
  if digits.length < width then none
  let n ← digits.foldlM (fun n c => (Text.hexValue? c).map (n * 16 + ·)) 0
  if n < 0xD800 || (0xDFFF < n && n ≤ 0x10FFFF) then some (Char.ofNat n) else none

/-- Read the characters of a quoted scalar up to a gap or its end. The flag tells that an
escaped line break came last. -/
def quotedWord (single : Bool) :
    Nat → List Char → Place → Option (List Char × Bool × Place)
  | 0, read, place => some (read, false, place)
  | fuel + 1, read, place =>
    match place.rest with
    | [] => some (read, false, place)
    | c :: _ =>
      if isGap c || isBreak c then some (read, false, place)
      else if single && c = '\'' then
        -- A quote stands for itself when it is doubled.
        if place.ahead 1 = some '\'' then quotedWord single fuel (c :: read) (place.skipMany 2)
        else some (read, false, place)
      else if !single && c = '"' then some (read, false, place)
      else if !single && c = '\\' then
        match place.ahead 1 with
        | none => none
        | some letter =>
          -- The end of a line that is escaped joins it to the next one.
          if isBreak letter then some (read, true, place.skip.skipBreak)
          else
            match letterEscape? letter, escapeWidth? letter with
            | some c, _ => quotedWord single fuel (c :: read) (place.skipMany 2)
            | none, some width => do
              let c ← numericEscape? width (place.rest.drop 2)
              quotedWord single fuel (c :: read) (place.skipMany (2 + width))
            | none, none => none
      else quotedWord single fuel (c :: read) place.skip

/-- The words and gaps of a quoted scalar up to its closing quote. -/
def quotedWords (single : Bool) : Nat → List Char → Place → Option (List Char × Place)
  | 0, _, _ => none
  | fuel + 1, read, place =>
    -- A mark between documents cannot stand in a scalar, not even in quotes.
    if place.atDocumentMark || place.rest.isEmpty then none
    else do
      let (read, escaped, place) ← quotedWord single (place.bound + 1) read place
      if place.isAt (if single then '\'' else '"') then some (read, place.skip)
      else
        let gap : Gap := { broken := escaped }
        let (gap, place) ← Gap.read none (place.bound + 1) gap place
        quotedWords single fuel (gap.text.reverse ++ read) place

/-- A quoted scalar, from its opening quote. -/
def quotedScalar (single : Bool) (place : Place) : Option (String × Place) :=
  (quotedWords single (place.bound + 1) [] place.skip).map
    fun (read, place) => (String.ofList read.reverse, place)

/-! ### Block scalars -/

/-- What becomes of the line breaks at the end of a block. -/
inductive Chomping
  | strip | clip | keep
deriving DecidableEq

def chomping? : Char → Option Chomping
  | '+' => some .keep
  | '-' => some .strip
  | _ => none

/-- The marks after the opening character of a block, in either order: the chomping, and an
indentation from one to nine. -/
def blockHeader (place : Place) : Option (Chomping × Option Nat × Place) :=
  let indentation (place : Place) : Option (Option Nat × Place) :=
    match place.rest with
    | c :: _ =>
      if c.isDigit then
        if c = '0' then none else some (some (c.toNat - 48), place.skip)
      else some (none, place)
    | [] => some (none, place)
  match place.rest.head?.bind chomping? with
  | some chomping => do
    let (indent, place) ← indentation place.skip
    some (chomping, indent, place)
  | none => do
    let (indent, place) ← indentation place
    match indent, place.rest.head?.bind chomping? with
    | some _, some chomping => some (chomping, indent, place.skip)
    | _, _ => some (.clip, indent, place)

/-- Pass indentation and empty lines. Without a known indentation all blanks are passed; the
greatest column reached is returned beside the breaks, which are latest first. -/
def blockBreaks (indent : Option Nat) :
    Nat → Nat → List Char → Place → Option (Nat × List Char × Place)
  | 0, deepest, breaks, place => some (deepest, breaks, place)
  | fuel + 1, deepest, breaks, place =>
    let room := match indent with
      | some indent => indent - place.column
      | none => place.bound
    let blanks := (place.rest.takeWhile (· = ' ')).take room
    let place := place.skipMany blanks.length
    let deepest := max deepest place.column
    if place.isAt '\t' && indent.all (place.column < ·) then none
    else
      match place.readBreak with
      | (some c, place) => blockBreaks indent fuel deepest (c :: breaks) place
      | (none, place) => some (deepest, breaks, place)

/-- The lines of a block, from one whose indentation has been passed. What has been read and
the breaks are latest first. -/
def blockLines (folded : Bool) (indent : Nat) :
    Nat → List Char → Option Char → List Char → Bool → Place →
      Option (List Char × Option Char × List Char × Place)
  | 0, read, lineBreak, breaks, _, place => some (read, lineBreak, breaks, place)
  | fuel + 1, read, lineBreak, breaks, afterBlank, place =>
    match place.rest with
    | [] => some (read, lineBreak, breaks, place)
    | c :: _ =>
      if place.column ≠ indent then some (read, lineBreak, breaks, place)
      else do
        let joined :=
          -- Between two lines of text a single break is folded to a blank.
          if folded && lineBreak = some '\n' && !afterBlank && !isGap c then
            if breaks.isEmpty then ' ' :: read else read
          else lineBreak.toList ++ read
        let (line, place) := place.readWhile (fun c => !isBreak c)
        let read := line.reverse ++ (breaks ++ joined)
        let (lineBreak, place) := place.readBreak
        let (_, breaks, place) ← blockBreaks (some indent) (place.bound + 1) 0 [] place
        blockLines folded indent fuel read lineBreak breaks (isGap c) place

/-- A block scalar from its opening character, inside a collection that is indented by
`outer`, or by less than nothing at the top. -/
def blockScalar (folded : Bool) (outer : Int) (place : Place) : Option (String × Place) := do
  let (chomping, increment, place) ← blockHeader place.skip
  let place := place.skipWhile isGap
  let place := if place.isAt '#' then place.skipWhile (fun c => !isBreak c) else place
  if !place.lineEnds then none
  let place := place.skipBreak
  let least := (max outer 0).toNat
  let (deepest, breaks, place) ←
    blockBreaks (increment.map (least + ·)) (place.bound + 1) 0 [] place
  -- Without a mark the first line with text sets the indentation.
  let indent := match increment with
    | some increment => least + increment
    | none => max (max deepest (outer + 1).toNat) 1
  let (read, lineBreak, breaks, place) ←
    blockLines folded indent (place.bound + 1) [] none breaks false place
  let tail := match chomping with
    | .strip => []
    | .clip => lineBreak.toList
    | .keep => breaks ++ lineBreak.toList
  some (String.ofList (tail ++ read).reverse, place)

end CloudSpace.Yaml
