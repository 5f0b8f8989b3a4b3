import CloudSpace.Yaml.Node
import CloudSpace.Yaml.ScalarText

/-!
# Tokens

A text is cut into tokens in one pass. Two things are not written where they count: the start
of a collection that is told by indentation, and the mark of a key, which is only known by the
colon after it. A scalar that may turn out to be a key is therefore remembered together with its
number among the tokens, and the mark is put before it once the colon is found.
-/
namespace CloudSpace.Yaml

inductive Token
  | versionDirective (major minor : Nat)
  | tagDirective (handle start : String)
  | documentStart
  | documentEnd
  | streamEnd
  | blockSequenceStart
  | blockMappingStart
  | blockEnd
  | flowSequenceStart
  | flowSequenceEnd
  | flowMappingStart
  | flowMappingEnd
  | blockEntry
  | flowEntry
  | key
  | value
  | alias (name : String)
  | anchor (name : String)
  | tag (handle suffix : String)
  | scalar (content : String) (style : ScalarStyle)
deriving DecidableEq, Repr

/-- A token that is a key if a colon follows soon enough. -/
structure PossibleKey where
  /-- Its number among the tokens. -/
  token : Nat
  /-- Whether nothing but a key may stand at its place. -/
  required : Bool
  /-- Bytes before it. -/
  index : Nat
  line : Nat
  column : Nat

/-- How far a text has been cut. -/
structure Cutting where
  place : Place
  /-- The tokens so far, latest first, and how many there are. -/
  tokens : List Token := []
  count : Nat := 0
  /-- The indentation of the innermost block collection. -/
  indent : Int := -1
  /-- The indentations of the collections around it, innermost first. -/
  outer : List Int := []
  /-- A possible key for each open bracket, innermost first, and last for the block context. -/
  keys : List (Option PossibleKey) := [none]
  /-- Whether a key may start here. -/
  keyAllowed : Bool := true

namespace Cutting

def inBrackets (cut : Cutting) : Bool := 1 < cut.keys.length

def push (cut : Cutting) (token : Token) : Cutting :=
  { cut with tokens := token :: cut.tokens, count := cut.count + 1 }

/-- Put a token before the one with a given number. -/
def insertAt (cut : Cutting) (number : Nat) (token : Token) : Cutting :=
  let later := cut.count - number
  { cut with
    tokens := cut.tokens.take later ++ token :: cut.tokens.drop later
    count := cut.count + 1 }

def skip (cut : Cutting) (count : Nat) : Cutting :=
  { cut with place := cut.place.skipMany count }

/-! ### Possible keys -/

def setKey (cut : Cutting) (key : Option PossibleKey) : Cutting :=
  { cut with keys := key :: cut.keys.tail }

/-- Give up the possible key of the innermost context, an error if it had to be one. -/
def dropKey (cut : Cutting) : Option Cutting :=
  match cut.keys.head?.join with
  | some key => if key.required then none else some (cut.setKey none)
  | none => some (cut.setKey none)

/-- Remember that a key may start here. -/
def noteKey (cut : Cutting) : Option Cutting :=
  if cut.keyAllowed then
    -- At the indentation of its block, nothing but a key can begin.
    let required := !cut.inBrackets && cut.indent == (cut.place.column : Int)
    cut.dropKey.map fun cut => cut.setKey
      (some ⟨cut.count, required, cut.place.index, cut.place.line, cut.place.column⟩)
  else some cut

/-- A key ends on its line and within 1024 bytes. -/
def isStale (cut : Cutting) (key : PossibleKey) : Bool :=
  key.line < cut.place.line || key.index + 1024 < cut.place.index

/-- Give up the possible keys that have become too long, an error if one had to be a key. -/
def dropStaleKeys (cut : Cutting) : Option Cutting := do
  let keys ← cut.keys.mapM fun key =>
    match key with
    | some key =>
      if cut.isStale key then if key.required then none else some none else some (some key)
    | none => some none
  some { cut with keys }

/-- The number of the first token that may yet turn out to be a key. -/
def firstPossibleKey (cut : Cutting) : Nat :=
  cut.keys.foldl (fun least key => match key with
    | some key => min least key.token
    | none => least) cut.count

/-- The tokens before those that may yet turn out to be a key. -/
def settledTokens (cut : Cutting) : List Token :=
  (cut.tokens.drop (cut.count - cut.firstPossibleKey)).reverse

/-! ### Indentation -/

/-- End the block collections that are indented further than a column. -/
def unindentFrom (column : Int) (cut : Cutting) : List Int → Cutting
  | [] => cut
  | indent :: outer =>
    if column < cut.indent then
      unindentFrom column { cut.push .blockEnd with indent, outer } outer
    else cut

def unindent (cut : Cutting) (column : Int) : Cutting :=
  if cut.inBrackets then cut else unindentFrom column cut cut.outer

/-- Start a block collection at a column, if it is indented further than the innermost one. -/
def startBlock (cut : Cutting) (column : Nat) (number : Nat) (token : Token) : Cutting :=
  if cut.inBrackets || (column : Int) ≤ cut.indent then cut
  else { cut.insertAt number token with indent := column, outer := cut.indent :: cut.outer }

/-! ### Names, tags and directives -/

/-- The mark of a tag's handle, from its exclamation mark. -/
def tagHandle (directive : Bool) (place : Place) : Option (String × Place) :=
  if place.isAt '!' then
    let (name, place) := place.skip.readWhile isNameChar
    if place.isAt '!' then some (String.ofList ('!' :: name ++ ['!']), place.skip)
    else if directive && !name.isEmpty then none
    else some (String.ofList ('!' :: name), place)
  else none

/-- Characters of the rest of a tag; inside angle brackets three more are allowed. -/
def isTagChar (verbatim : Bool) (c : Char) : Bool :=
  isNameChar c || ";/?:@&=+$.%!~*'()".toList.contains c ||
    (verbatim && (c = ',' || c = '[' || c = ']'))

/-- The octet of a percent sign and two digits. -/
def percentOctet? : List Char → Option (Nat × List Char)
  | '%' :: a :: b :: rest => do
    let a ← Text.hexValue? a
    let b ← Text.hexValue? b
    some (a * 16 + b, rest)
  | _ => none

/-- Put characters for the percent signs of a tag. -/
def percentDecoded : Nat → List Char → Option (List Char)
  | 0, _ => some []
  | _, [] => some []
  | fuel + 1, '%' :: rest => do
    let (lead, rest) ← percentOctet? ('%' :: rest)
    let (width, start) ←
      if lead < 0x80 then some (0, lead)
      else if 0xC0 ≤ lead && lead < 0xE0 then some (1, lead % 32)
      else if 0xE0 ≤ lead && lead < 0xF0 then some (2, lead % 16)
      else if 0xF0 ≤ lead && lead < 0xF8 then some (3, lead % 8)
      else none
    let (n, rest) ← (List.range width).foldlM (fun (state : Nat × List Char) _ => do
      let (octet, rest) ← percentOctet? state.2
      if octet / 64 = 2 then some (state.1 * 64 + octet % 64, rest) else none) (start, rest)
    let decoded ← percentDecoded fuel rest
    some (Char.ofNat n :: decoded)
  | fuel + 1, c :: rest => (percentDecoded fuel rest).map (c :: ·)

/-- The rest of a tag after what has been read of it, of which the first character does not
count; with nothing read and nothing left it is an error. -/
def tagSuffix (verbatim : Bool) (head : String) (place : Place) : Option (String × Place) := do
  let (read, place) := place.readWhile (isTagChar verbatim)
  if read.isEmpty && head.isEmpty then none
  let read ← percentDecoded (read.length + 1) read
  some (String.ofList (head.toList.drop 1 ++ read), place)

/-- A tag: in angle brackets, with a handle, or after a single exclamation mark. -/
def tagToken (inBrackets : Bool) (place : Place) : Option (Token × Place) := do
  let (token, place) ←
    if place.ahead 1 = some '<' then do
      let (suffix, place) ← tagSuffix true "" (place.skipMany 2)
      if place.isAt '>' then some (Token.tag "" suffix, place.skip) else none
    else do
      let (handle, place) ← tagHandle false place
      if 2 ≤ handle.length && handle.toList.getLast? = some '!' then
        let (suffix, place) ← tagSuffix false "" place
        some (Token.tag handle suffix, place)
      else
        let (suffix, place) ← tagSuffix false handle place
        if suffix.isEmpty then some (Token.tag "" "!", place)
        else some (Token.tag "!" suffix, place)
  if place.endsAt 0 || (inBrackets && place.isAt ',') then some (token, place) else none

/-- The name of an anchor or an alias, after its mark. -/
def anchorName (place : Place) : Option (String × Place) :=
  let (name, place) := place.skip.readWhile isNameChar
  let ended := place.endsAt 0 ||
    place.rest.head?.any (fun c => ['?', ':', ',', ']', '\x7d', '%', '@', '`'].contains c)
  if name.isEmpty || !ended then none else some (String.ofList name, place)

/-- A number of at most nine digits. -/
def versionNumber (place : Place) : Option (Nat × Place) :=
  let (digits, place) := place.readWhile Char.isDigit
  if digits.isEmpty || 9 < digits.length then none
  else some (digits.foldl (fun n c => n * 10 + (c.toNat - 48)) 0, place)

/-- A directive up to the end of its line. -/
def directive (place : Place) : Option (Token × Place) := do
  let (name, place) := place.skip.readWhile isNameChar
  if !place.endsAt 0 then none
  let place := place.skipWhile isGap
  let (token, place) ←
    if name = "YAML".toList then do
      let (major, place) ← versionNumber place
      if !place.isAt '.' then none
      let (minor, place) ← versionNumber place.skip
      some (Token.versionDirective major minor, place)
    else if name = "TAG".toList then do
      let (handle, place) ← tagHandle true place
      if !(place.rest.head?.any isGap) then none
      let (start, place) ← tagSuffix true "" (place.skipWhile isGap)
      if place.endsAt 0 then some (Token.tagDirective handle start, place) else none
    else none
  let place := place.skipWhile isGap
  let place := if place.isAt '#' then place.skipWhile (fun c => !isBreak c) else place
  if place.lineEnds then some (token, place.skipBreak) else none

/-! ### Cutting off one token -/

/-- Pass blanks, comments and line ends up to the next token. A tab counts as a blank where no
key may start. -/
def skipToToken : Nat → Cutting → Cutting
  | 0, cut => cut
  | fuel + 1, cut =>
    let place := cut.place
    let place :=
      if place.column = 0 && place.rest.head?.any isByteOrderMark then place.skip else place
    let tabAllowed := cut.inBrackets || !cut.keyAllowed
    let place := place.skipWhile fun c => c = ' ' || (c = '\t' && tabAllowed)
    let place := if place.isAt '#' then place.skipWhile (fun c => !isBreak c) else place
    match place.readBreak with
    | (some _, place) =>
      -- A new line may begin with a key, but not between brackets.
      skipToToken fuel { cut with place, keyAllowed := cut.keyAllowed || !cut.inBrackets }
    | (none, place) => { cut with place }

/-- The end of the text ends every block. -/
def cutStreamEnd (cut : Cutting) : Option Cutting := do
  let cut ← (cut.unindent (-1)).dropKey
  some ({ cut with keyAllowed := false }.push .streamEnd)

def cutDirective (cut : Cutting) : Option Cutting := do
  let cut ← (cut.unindent (-1)).dropKey
  let (token, place) ← directive cut.place
  some ({ cut with keyAllowed := false, place }.push token)

/-- A mark between documents. -/
def cutDocumentMark (cut : Cutting) (token : Token) : Option Cutting := do
  let cut ← (cut.unindent (-1)).dropKey
  some (({ cut with keyAllowed := false }.skip 3).push token)

def cutBracketStart (cut : Cutting) (token : Token) : Option Cutting := do
  let cut ← cut.noteKey
  -- Between the brackets there is another possible key.
  some (({ cut with keyAllowed := true, keys := none :: cut.keys }.skip 1).push token)

def cutBracketEnd (cut : Cutting) (token : Token) : Option Cutting := do
  let cut ← cut.dropKey
  let keys := if cut.inBrackets then cut.keys.tail else cut.keys
  some (({ cut with keyAllowed := false, keys }.skip 1).push token)

def cutFlowEntry (cut : Cutting) : Option Cutting := do
  let cut ← cut.dropKey
  some (({ cut with keyAllowed := true }.skip 1).push .flowEntry)

def cutBlockEntry (cut : Cutting) : Option Cutting := do
  if !cut.inBrackets && !cut.keyAllowed then none
  let cut := cut.startBlock cut.place.column cut.count .blockSequenceStart
  let cut ← cut.dropKey
  some (({ cut with keyAllowed := true }.skip 1).push .blockEntry)

/-- A mark that says outright that a key follows. -/
def cutKey (cut : Cutting) : Option Cutting := do
  if !cut.inBrackets && !cut.keyAllowed then none
  let cut := cut.startBlock cut.place.column cut.count .blockMappingStart
  let cut ← cut.dropKey
  some (({ cut with keyAllowed := !cut.inBrackets }.skip 1).push .key)

/-- The colon after a key. If the key is one of those that were possible, its mark is put
before it now. -/
def cutValue (cut : Cutting) : Option Cutting := do
  match cut.keys.head?.join with
  | some key =>
    let cut := cut.insertAt key.token .key
    let cut := cut.startBlock key.column key.token .blockMappingStart
    some (({ cut.setKey none with keyAllowed := false }.skip 1).push .value)
  | none =>
    if !cut.inBrackets && !cut.keyAllowed then none
    let cut := cut.startBlock cut.place.column cut.count .blockMappingStart
    some (({ cut with keyAllowed := !cut.inBrackets }.skip 1).push .value)

def cutAnchor (cut : Cutting) (token : String → Token) : Option Cutting := do
  let cut ← cut.noteKey
  let (name, place) ← anchorName cut.place
  some ({ cut with keyAllowed := false, place }.push (token name))

def cutTag (cut : Cutting) : Option Cutting := do
  let cut ← cut.noteKey
  let (token, place) ← tagToken cut.inBrackets cut.place
  some ({ cut with keyAllowed := false, place }.push token)

def cutBlockScalar (cut : Cutting) (folded : Bool) : Option Cutting := do
  let cut ← cut.dropKey
  let (content, place) ← blockScalar folded cut.indent cut.place
  let style := if folded then ScalarStyle.folded else .literal
  some ({ cut with keyAllowed := true, place }.push (.scalar content style))

def cutQuotedScalar (cut : Cutting) (single : Bool) : Option Cutting := do
  let cut ← cut.noteKey
  let (content, place) ← quotedScalar single cut.place
  some ({ cut with keyAllowed := false, place }.push (.scalar content .quoted))

/-- A plain scalar. After one that ends with a line break a key may start. -/
def cutPlainScalar (cut : Cutting) : Option Cutting := do
  let cut ← cut.noteKey
  let (content, broken, place) ← plainScalar cut.inBrackets (cut.indent + 1).toNat cut.place
  some ({ cut with keyAllowed := broken, place }.push (.scalar content .plain))

/-- Characters that start no plain scalar. -/
def isIndicator (c : Char) : Bool := "-?:,[]\x7b\x7d#&*!|>'\"%@`".toList.contains c

/-- Cut off the next token, with those that it implies. -/
def next (cut : Cutting) : Option Cutting := do
  let cut ← (skipToToken (cut.place.bound + 1) cut).dropStaleKeys
  let cut := cut.unindent cut.place.column
  let place := cut.place
  let spaced := place.endsAt 1
  match place.rest with
  | [] => cut.cutStreamEnd
  | c :: _ =>
    -- A directive counts only at the start of a line.
    if place.column = 0 && c = '%' then cut.cutDirective
    else if place.atDocumentMark then
      cut.cutDocumentMark (if c = '-' then .documentStart else .documentEnd)
    else
      match c with
      | '[' => cut.cutBracketStart .flowSequenceStart
      | '\x7b' => cut.cutBracketStart .flowMappingStart
      | ']' => cut.cutBracketEnd .flowSequenceEnd
      | '\x7d' => cut.cutBracketEnd .flowMappingEnd
      | ',' => cut.cutFlowEntry
      | '*' => cut.cutAnchor .alias
      | '&' => cut.cutAnchor .anchor
      | '!' => cut.cutTag
      | '\'' => cut.cutQuotedScalar true
      | '"' => cut.cutQuotedScalar false
      | c =>
        if c = '-' && spaced then cut.cutBlockEntry
        else if c = '?' && (cut.inBrackets || spaced) then cut.cutKey
        else if c = ':' && (cut.inBrackets || spaced) then cut.cutValue
        else if c = '|' && !cut.inBrackets then cut.cutBlockScalar false
        else if c = '>' && !cut.inBrackets then cut.cutBlockScalar true
        else if isGap c then none
        -- A dash, a question mark or a colon may begin a word.
        else if !isIndicator c || c = '-' || ((c = '?' || c = ':') && !cut.inBrackets) then
          cut.cutPlainScalar
        else none

/-- Cut a text to its end, or to an error. What may still become a key when the error is met
is not told apart any more, and left out. -/
def run : Nat → Cutting → List Token × Bool
  | 0, cut => (cut.tokens.reverse, false)
  | fuel + 1, cut =>
    match cut.dropStaleKeys with
    | none => (cut.settledTokens, false)
    | some cut =>
      match cut.next with
      | none => (cut.settledTokens, false)
      | some cut =>
        if cut.tokens.head? = some .streamEnd then (cut.tokens.reverse, true) else run fuel cut

end Cutting

/-- The tokens of a text, and whether it could be cut to its end. -/
def tokens (content : String) : List Token × Bool :=
  -- The mark of the encoding is no part of the text.
  let input := match content.toList with
    | c :: rest => if isByteOrderMark c then rest else c :: rest
    | [] => []
  let length := input.length
  -- One character that may not occur spoils the whole text.
  if input.all isAllowed then
    Cutting.run (2 * length + 2) { place := { rest := input, bound := length } }
  else ([], false)

end CloudSpace.Yaml
