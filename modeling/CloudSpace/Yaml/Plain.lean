import CloudSpace.Decimal.Binary64

/-!
# Plain scalars

What a word without quotes stands for: nothing, a truth value, a whole number in one of four
bases, a number with a fraction or an exponent, or else its own text. The reader asks this of
every plain scalar, and the printer quotes each text that would stand for something else.
-/
namespace CloudSpace.Yaml

/-- What a plain scalar stands for. A whole number of more than sixty-four bits is recognised
as one, but no data value holds it. -/
inductive Plain
  | null
  | bool (flag : Bool)
  | int (number : Int)
  | tooWide
  | float (number : Binary64)
  | text
deriving DecidableEq, Repr

namespace Plain

def isNull (content : String) : Bool :=
  content = "null" || content = "Null" || content = "NULL" || content = "~"

def bool? (content : String) : Option Bool :=
  if content = "true" || content = "True" || content = "TRUE" then some true
  else if content = "false" || content = "False" || content = "FALSE" then some false
  else none

/-! ### Whole numbers -/

/-- The value of a digit in a base of at most sixteen. -/
def digit? (base : Nat) (c : Char) : Option Nat :=
  let n :=
    if '0' ≤ c ∧ c ≤ '9' then c.toNat - 48
    else if 'a' ≤ c ∧ c ≤ 'f' then c.toNat - 87
    else if 'A' ≤ c ∧ c ≤ 'F' then c.toNat - 55
    else 16
  if n < base then some n else none

/-- The number of a list of digits, of which there is at least one. -/
def digits? (base : Nat) (digits : List Char) : Option Nat :=
  if digits.isEmpty then none
  else digits.foldlM (fun n c => (digit? base c).map (n * base + ·)) 0

/-- Digits that begin with a zero and are no number: a code, kept as text. -/
def isZeroPadded (content : List Char) : Bool :=
  let digits := match content with
    | '-' :: rest => rest
    | '+' :: rest => rest
    | rest => rest
  match digits with
  | '0' :: rest => !rest.isEmpty && rest.all Char.isDigit
  | _ => false

/-- The digits after the mark of a base, with the base. -/
def marked? : List Char → Option (Nat × List Char)
  | '0' :: 'x' :: rest => some (16, rest)
  | '0' :: 'o' :: rest => some (8, rest)
  | '0' :: 'b' :: rest => some (2, rest)
  | _ => none

/-- A number without a sign, by the digits alone. -/
def magnitude? (content : List Char) : Option Nat :=
  match marked? content with
  | some (base, digits) => digits? base digits
  | none => if isZeroPadded content then none else digits? 10 content

/-- The number of a plain scalar that is one, of any size. A minus sign may stand before every
base, a plus sign too. -/
def whole? (content : String) : Option Int :=
  match content.toList with
  | '+' :: rest => (magnitude? rest).map Int.ofNat
  | '-' :: rest => (magnitude? rest).map fun n => -(n : Int)
  | rest => (magnitude? rest).map Int.ofNat

/-- The number of a plain scalar that has no minus sign and at most sixty-four bits. -/
def unsigned? (content : String) : Option Nat :=
  if content.toList.head? = some '-' then none
  else (whole? content).bind fun n => if n < wordSize 64 then some n.toNat else none

/-! ### Numbers with a fraction -/

/-- The exponent after its mark; nothing at all is the exponent zero. -/
def exponent? : List Char → Option Int
  | [] => some 0
  | mark :: rest =>
    if mark = 'e' || mark = 'E' then
      match rest with
      | '+' :: digits => (digits? 10 digits).map Int.ofNat
      | '-' :: digits => (digits? 10 digits).map fun n => -(n : Int)
      | digits => (digits? 10 digits).map Int.ofNat
    else none

/-- The number of decimal digits with a point or an exponent, or both, if it is finite. -/
def decimal? (negative : Bool) (content : List Char) : Option Binary64 := do
  let whole := content.takeWhile Char.isDigit
  let rest := content.dropWhile Char.isDigit
  let (fraction, rest) := match rest with
    | '.' :: rest => (rest.takeWhile Char.isDigit, rest.dropWhile Char.isDigit)
    | rest => ([], rest)
  let digits ← digits? 10 (whole ++ fraction)
  let exponent ← exponent? rest
  let number := Binary64.ofDecimal negative digits (exponent - fraction.length)
  if number.isFinite then some number else none

def float? (content : String) : Option Binary64 :=
  if content = ".nan" || content = ".NaN" || content = ".NAN" then some .notANumber
  else
    match content.toList with
    | '+' :: rest =>
      if rest = ".inf".toList || rest = ".Inf".toList || rest = ".INF".toList then
        some (.infinite false)
      else decimal? false rest
    | '-' :: rest =>
      if rest = ".inf".toList || rest = ".Inf".toList || rest = ".INF".toList then
        some (.infinite true)
      else decimal? true rest
    | rest =>
      if rest = ".inf".toList || rest = ".Inf".toList || rest = ".INF".toList then
        some (.infinite false)
      else decimal? false rest

/-- The bounds between which a whole number is recognised at all. -/
def isRecognised (n : Int) : Bool := -(wordSize 127 : Int) ≤ n && n < wordSize 128

/-- The bounds between which a whole number is a data value. -/
def isHeld (n : Int) : Bool := -(wordSize 63 : Int) ≤ n && n < wordSize 64

/-- What a whole number or a word that is none stands for. -/
def ofNumber (content : String) : Plain :=
  match (whole? content).filter isRecognised with
  | some n => if isHeld n then .int n else .tooWide
  | none =>
    if isZeroPadded content.toList then .text
    else
      match float? content with
      | some number => .float number
      | none => .text

/-- What a plain scalar stands for; the empty one stands for nothing. -/
def resolve (content : String) : Plain :=
  if content.isEmpty || isNull content then .null
  else
    match bool? content with
    | some flag => .bool flag
    | none => ofNumber content

end Plain

end CloudSpace.Yaml
