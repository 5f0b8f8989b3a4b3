import CloudSpace.Text.Bytes

/-!
# Percent signs

Characters that cannot stand for themselves at some place of an address are written as the bytes
of their UTF-8 form, each as a percent sign and two digits.
-/
namespace CloudSpace.Url

/-- The upper-case digit of a number below sixteen. -/
def upperHexDigit (n : Nat) : Char :=
  if n < 10 then Char.ofNat (48 + n) else Char.ofNat (55 + n)

/-- A byte as a percent sign and two digits. -/
def escapedByte (byte : UInt8) : List Char :=
  ['%', upperHexDigit (byte.toNat / 16), upperHexDigit (byte.toNat % 16)]

/-- A character as the escaped bytes of its UTF-8 form. -/
def escapedChar (c : Char) : List Char := (Text.utf8 c.toString).flatMap escapedByte

/-- A text with some of its characters escaped. -/
def escape (needed : Char → Bool) (text : List Char) : List Char :=
  text.flatMap fun c => if needed c then escapedChar c else [c]

/-! ### Characters by place -/

/-- Control characters and all that is not ASCII. -/
def isControl (c : Char) : Bool := c.toNat < 0x20 || 0x7E < c.toNat

def isEscapedInFragment (c : Char) : Bool :=
  isControl c || [' ', '"', '<', '>'].contains c || c.toNat = 0x60

def isEscapedInQuery (special : Bool) (c : Char) : Bool :=
  isControl c || [' ', '"', '#', '<', '>'].contains c || (special && c = '\'')

def isEscapedInPath (c : Char) : Bool :=
  isEscapedInFragment c || ['#', '?', '{', '}'].contains c

def isEscapedInUser (c : Char) : Bool :=
  isEscapedInPath c || ['/', ':', ';', '=', '@', '[', '\\', ']', '^', '|'].contains c

/-! ### Forms -/

/-- Whether a byte stands for itself in a field of a form. -/
def isPlainInForm (byte : UInt8) : Bool :=
  let c := Char.ofNat byte.toNat
  byte < 0x80 && (c.isAlphanum || c = '*' || c = '-' || c = '.' || c = '_')

/-- The name or the value of a field of a form: blanks are plus signs. -/
def formText (text : String) : String :=
  String.ofList ((Text.utf8 text).flatMap fun byte =>
    if byte = 0x20 then ['+']
    else if isPlainInForm byte then [Char.ofNat byte.toNat]
    else escapedByte byte)

/-- The fields of a form. -/
def formFields (fields : List (String × String)) : String :=
  "&".intercalate (fields.map fun (name, value) => formText name ++ "=" ++ formText value)

/-! ### Reading -/

/-- The bytes of a text in which percent signs stand for bytes. -/
def unescapedBytes : List Char → List UInt8
  | [] => []
  | '%' :: a :: b :: rest =>
    match Text.hexValue? a, Text.hexValue? b with
    | some first, some second => (first * 16 + second).toUInt8 :: unescapedBytes rest
    | _, _ => 0x25 :: unescapedBytes (a :: b :: rest)
  | c :: rest => Text.utf8 c.toString ++ unescapedBytes rest
termination_by text => text.length

end CloudSpace.Url
