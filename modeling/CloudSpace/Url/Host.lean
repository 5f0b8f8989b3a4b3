import CloudSpace.Url.Address
import CloudSpace.Url.Percent
import CloudSpace.Url.Punycode

/-!
# Hosts

The host of an address is a name or a number. The names of the well-known schemes are domains:
they are unescaped, written in lower-case ASCII, and refused if a character is left that no
domain has. Other schemes keep whatever may stand there.
-/
namespace CloudSpace.Url

/-- Characters that end or begin another part of an address. -/
def isForbiddenInHost (c : Char) : Bool :=
  c.toNat = 0 || ['\t', '\n', '\r', ' ', '#', '/', ':', '<', '>', '?', '@', '[', '\\', ']', '^',
    '|'].contains c

def isForbiddenInDomain (c : Char) : Bool :=
  isForbiddenInHost c || c.toNat < 0x20 || c = '%' || c.toNat = 0x7F

/-- A character that stands for another one in a domain: wide forms for the usual ones, and
other full stops for the one of ASCII. Characters that no one can see stand for none. -/
def domainChar (c : Char) : List Char :=
  let n := c.toNat
  if 0xFF01 ≤ n ∧ n ≤ 0xFF5E then [(Char.ofNat (n - 0xFEE0)).toLower]
  else if n = 0x3002 ∨ n = 0xFF0E ∨ n = 0xFF61 then ['.']
  else if n = 0xAD ∨ n = 0x200B ∨ n = 0x2060 ∨ n = 0xFEFF then []
  else if n = 0xA0 ∨ n = 0x3000 then [' ']
  else [c.toLower]

/-- A label in ASCII. -/
def labelText (label : List Char) : String :=
  if label.all fun c => c.toNat < 128 then String.ofList label
  else "xn--" ++ String.ofList (Punycode.encode label)

/-- The domain of a host, or the address that it stands for. -/
def domain? (host : List Char) : Option String := do
  let text ← Text.ofUtf8? (unescapedBytes host)
  let labels := (text.toList.flatMap domainChar).splitOn '.'
  let domain := ".".intercalate (labels.map labelText)
  if domain.isEmpty || domain.toList.any isForbiddenInDomain then none
  else if endsInNumber domain then (fourBytes? domain).map fourBytesText
  else some domain

/-- The host of an address with a well-known scheme, or with another one. -/
def host? (special : Bool) (host : List Char) : Option String :=
  match host with
  | '[' :: rest =>
    if rest.getLast? = some ']' then
      (eightWords? (String.ofList rest.dropLast)).map fun words =>
        "[" ++ eightWordsText words ++ "]"
    else none
  | _ =>
    if special then domain? host
    else if host.any isForbiddenInHost then none
    else some (String.ofList (escape isControl host))

end CloudSpace.Url
