import CloudSpace.Text.Bytes

/-!
# Numeric addresses

Hosts that are given as numbers: four bytes with dots, of which the last may stand for several
and each may be octal or hexadecimal, or eight words in hexadecimal with colons, of which the
longest run of zeros may be left out.
-/
namespace CloudSpace.Url

/-! ### Four bytes -/

/-- The number of digits in a base. -/
def numberIn? (base : Nat) (digits : List Char) : Option Nat :=
  digits.foldlM (fun n c =>
    (Text.hexValue? c).bind fun digit => if digit < base then some (n * base + digit) else none) 0

/-- A part of an address. -/
def part? (part : List Char) : Option Nat :=
  match part with
  | [] => none
  | '0' :: 'x' :: digits => numberIn? 16 digits
  | '0' :: 'X' :: digits => numberIn? 16 digits
  | '0' :: second :: digits => numberIn? 8 (second :: digits)
  | digits => numberIn? 10 digits

/-- The parts of a host, without an empty one at the end. -/
def partsOf (host : String) : List (List Char) :=
  let parts := host.toList.splitOn '.'
  if parts.length > 1 && parts.getLast? = some [] then parts.dropLast else parts

/-- Whether a host has to be an address, because its last part is a number. -/
def endsInNumber (host : String) : Bool :=
  match (partsOf host).getLast? with
  | some last => (!last.isEmpty && last.all Char.isDigit) || (part? last).isSome
  | none => false

/-- The number that parts stand for: each but the last is a byte. -/
def addressOf? : Nat → List Nat → Option Nat
  | _, [] => none
  | bytes, [last] => if last < Nat.pow 256 bytes then some last else none
  | bytes, part :: rest =>
    if part < 256 ∧ 1 < bytes then
      (addressOf? (bytes - 1) rest).map (part * Nat.pow 256 (bytes - 1) + ·)
    else none

/-- The address of four bytes that a host stands for. -/
def fourBytes? (host : String) : Option Nat := do
  let parts ← (partsOf host).mapM part?
  addressOf? 4 parts

def fourBytesText (address : Nat) : String :=
  ".".intercalate ([16777216, 65536, 256, 1].map fun unit => toString (address / unit % 256))

/-! ### Eight words -/

/-- The words of pieces between colons; the last piece may be an address of four bytes. -/
def wordsOf? : List (List Char) → Option (List Nat)
  | [] => some []
  | [last] =>
    if last.contains '.' then do
      let bytes ← (last.splitOn '.').mapM fun part =>
        if part.isEmpty || (part.length > 1 && part.head? = some '0') then none
        else numberIn? 10 part
      if bytes.length = 4 && bytes.all (· < 256) then
        let address ← addressOf? 4 bytes
        some [address / 65536, address % 65536]
      else none
    else if last.isEmpty || last.length > 4 then none
    else (numberIn? 16 last).map ([·])
  | piece :: rest =>
    if piece.isEmpty || piece.length > 4 then none
    else do
      let word ← numberIn? 16 piece
      let words ← wordsOf? rest
      some (word :: words)

/-- The words of one side of a gap. -/
def sideOf? (side : String) : Option (List Nat) :=
  if side.isEmpty then some [] else wordsOf? (side.toList.splitOn ':')

/-- The eight words of an address. -/
def eightWords? (text : String) : Option (List Nat) :=
  match text.splitOn "::" with
  | [whole] => (sideOf? whole).filter fun words => words.length = 8
  | [before, after] => do
    if before.contains '.' then none
    let first ← sideOf? before
    let last ← sideOf? after
    let missing := 8 - (first.length + last.length)
    if missing = 0 then none else some (first ++ List.replicate missing 0 ++ last)
  | _ => none

/-- A number in lower-case hexadecimal digits. -/
def hexNumber (n : Nat) : String := String.ofList (Nat.toDigits 16 n)

/-- How many zeros the words from a place on begin with. -/
def zerosFrom (words : List Nat) (place : Nat) : Nat :=
  ((words.drop place).takeWhile (· = 0)).length

/-- The place and the length of the first longest run of zeros. -/
def longestZeros (words : List Nat) : Nat × Nat :=
  (List.range words.length).foldl (fun best place =>
    if best.2 < zerosFrom words place then (place, zerosFrom words place) else best) (0, 0)

def eightWordsText (words : List Nat) : String :=
  let (place, length) := longestZeros words
  if length < 2 then ":".intercalate (words.map hexNumber)
  else
    ":".intercalate ((words.take place).map hexNumber) ++ "::" ++
      ":".intercalate ((words.drop (place + length)).map hexNumber)

end CloudSpace.Url
