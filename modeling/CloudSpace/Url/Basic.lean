import CloudSpace.Url.Host

/-!
# Addresses

An address names a scheme, mostly a host, and a path on it. Addresses of the well-known schemes
have a host, and their path is a list of names; addresses of other schemes may instead go on
with an arbitrary text, and nothing can be relative to these.
-/
namespace CloudSpace

inductive Url.Place
  /-- A list of names, which a slash precedes. -/
  | names (names : List String)
  | opaqueText (text : String)
deriving DecidableEq, Repr, Inhabited

structure Url where
  scheme : String
  /-- Name and password, escaped. -/
  user : Option String := none
  host : Option String := none
  port : Option Nat := none
  place : Url.Place
  query : Option String := none
  fragment : Option String := none
deriving DecidableEq, Repr, Inhabited

namespace Url

/-! ### Schemes -/

/-- The port that a well-known scheme has by default. -/
def defaultPort? (scheme : String) : Option Nat :=
  match scheme with
  | "http" | "ws" => some 80
  | "https" | "wss" => some 443
  | "ftp" => some 21
  | _ => none

def isSpecial (scheme : String) : Bool := scheme = "file" || (defaultPort? scheme).isSome

def isSchemeChar (c : Char) : Bool := c.isAlphanum || c = '+' || c = '-' || c = '.'

/-- The scheme of an address, and what follows the colon. -/
def splitScheme? (text : List Char) : Option (String × List Char) :=
  match text with
  | first :: _ =>
    if first.isAlpha then
      match text.dropWhile isSchemeChar with
      | ':' :: rest => some (String.ofList ((text.takeWhile isSchemeChar).map Char.toLower), rest)
      | _ => none
    else none
  | [] => none

/-! ### Paths, queries and fragments -/

/-- Whether a character separates names in a path. -/
def isSeparator (special : Bool) (c : Char) : Bool := c = '/' || (special && c = '\\')

/-- Cut a path into names. -/
def splitPath (special : Bool) : List Char → List Char → List (List Char)
  | taken, [] => [taken.reverse]
  | taken, c :: rest =>
    if isSeparator special c then taken.reverse :: splitPath special [] rest
    else splitPath special (c :: taken) rest

def isSingleDot (name : String) : Bool := name = "." || name.toLower = "%2e"

def isDoubleDot (name : String) : Bool :=
  name = ".." || [".%2e", "%2e.", "%2e%2e"].contains name.toLower

/-- The names of a path: a name that is a dot stands for nothing, and two dots for the name
before them. At the end either of them leaves an empty name. -/
def resolveDots : List String → List String → List String
  | taken, [] => taken.reverse
  | taken, [last] =>
    if isDoubleDot last then ("" :: taken.drop 1).reverse
    else if isSingleDot last then ("" :: taken).reverse
    else (last :: taken).reverse
  | taken, name :: rest =>
    if isDoubleDot name then resolveDots (taken.drop 1) rest
    else if isSingleDot name then resolveDots taken rest
    else resolveDots (name :: taken) rest

/-- The path of a text that begins after its first separator. -/
def namesOf (special : Bool) (path : List Char) : List String :=
  resolveDots [] ((splitPath special [] path).map fun name =>
    String.ofList (escape isEscapedInPath name))

/-- The parts of a text up to a question mark, from there to a number sign, and from there on. -/
def splitTail (text : List Char) : List Char × Option (List Char) × Option (List Char) :=
  let before := text.takeWhile (· != '#')
  let fragment := (text.dropWhile (· != '#')).tail?
  (before.takeWhile (· != '?'), (before.dropWhile (· != '?')).tail?, fragment)

/-- An address that goes on with a path, a query and a fragment. -/
def withTail (start : Url) (text : List Char) : Url :=
  let special := isSpecial start.scheme
  let (path, query, fragment) := splitTail text
  let names := match path with
    | [] => if special then [""] else []
    | first :: rest =>
      if isSeparator special first then namesOf special rest else namesOf special path
  { start with
    place := .names names
    query := query.map fun text => String.ofList (escape (isEscapedInQuery special) text)
    fragment := fragment.map fun text => String.ofList (escape isEscapedInFragment text) }

/-! ### Hosts and ports -/

/-- The port of a text, where nothing is as good as the default. -/
def port? (scheme : String) (text : List Char) : Option (Option Nat) :=
  if text.all Char.isDigit then
    -- The default port is left out, as if it had not been given.
    if text.isEmpty then some none
    else (numberIn? 10 text).bind fun port =>
      if port < 65536 then some (if defaultPort? scheme = some port then none else some port)
      else none
  else none

/-- Split a text at the last occurrence of a character. -/
def splitLast? (mark : Char) (text : List Char) : Option (List Char × List Char) :=
  let after := (text.reverse.takeWhile (· != mark)).reverse
  if after.length = text.length then none
  else some (text.take (text.length - after.length - 1), after)

/-- The host and the port of a text; a colon between brackets is part of the host. -/
def splitPort (text : List Char) : List Char × List Char :=
  match text with
  | '[' :: _ =>
    let host := text.takeWhile (· != ']')
    match text.drop host.length with
    | ']' :: ':' :: port => (host ++ [']'], port)
    | ']' :: rest => (host ++ ']' :: rest, [])
    | _ => (text, [])
  | _ =>
    match text.dropWhile (· != ':') with
    | _ :: port => (text.takeWhile (· != ':'), port)
    | [] => (text, [])

/-- Name and password, escaped, if there are any. -/
def userText (user : List Char) : Option String :=
  let name := user.takeWhile (· != ':')
  let password := (user.dropWhile (· != ':')).drop 1
  let escaped (text : List Char) : String := String.ofList (escape isEscapedInUser text)
  if name.isEmpty && password.isEmpty then none
  else if password.isEmpty then some (escaped name)
  else some (escaped name ++ ":" ++ escaped password)

/-- An address with the host of a text. -/
def withHost? (scheme : String) (text : List Char) : Option Url := do
  let (user, rest) := match splitLast? '@' text with
    | some (user, rest) => (some user, rest)
    | none => (none, text)
  let special := isSpecial scheme
  let (hostText, portText) := splitPort rest
  if hostText.isEmpty then
    -- Only the address of a file can do without a host.
    if (special && scheme != "file") || user.isSome || !portText.isEmpty then none
    else some { scheme, host := some "", place := .names [] }
  else
    let host ← host? special hostText
    let port ← port? scheme portText
    some { scheme, user := user.bind userText, host := some host, port, place := .names [] }

/-- Whether a character ends the host. -/
def endsHost (special : Bool) (c : Char) : Bool :=
  isSeparator special c || c = '?' || c = '#'

/-- An address that goes on with a host. -/
def afterSlashes? (scheme : String) (text : List Char) : Option Url := do
  let isEnd := endsHost (isSpecial scheme)
  let start ← withHost? scheme (text.takeWhile (!isEnd ·))
  some (withTail start (text.dropWhile (!isEnd ·)))

/-! ### Reading and writing -/

/-- A text without what is left out of every address: control characters and blanks around it,
and tabs and line breaks in it. -/
def cleaned (text : String) : List Char :=
  let isOuter (c : Char) : Bool := c.toNat ≤ 0x20
  (((text.toList.dropWhile isOuter).reverse.dropWhile isOuter).reverse).filter fun c =>
    c != '\t' && c != '\n' && c != '\r'

/-- An address without a host, which has a path or an arbitrary text. -/
def withoutHost (scheme : String) (text : List Char) : Url :=
  match text with
  | '/' :: _ => withTail { scheme, place := .names [] } text
  | _ =>
    let (path, query, fragment) := splitTail text
    { scheme
      place := .opaqueText (String.ofList (escape isControl path))
      query := query.map fun text => String.ofList (escape (isEscapedInQuery false) text)
      fragment := fragment.map fun text => String.ofList (escape isEscapedInFragment text) }

/-- The address that a text gives in full. -/
def parse? (text : String) : Option Url := do
  let (scheme, rest) ← splitScheme? (cleaned text)
  if scheme = "file" then
    match rest with
    | first :: second :: after =>
      if isSeparator true first && isSeparator true second then afterSlashes? scheme after
      else some (withTail { scheme, host := some "", place := .names [] } rest)
    | _ => some (withTail { scheme, host := some "", place := .names [] } rest)
  -- Any number of slashes may follow a well-known scheme, even none.
  else if isSpecial scheme then afterSlashes? scheme (rest.dropWhile (isSeparator true))
  else
    match rest with
    | '/' :: '/' :: after => afterSlashes? scheme after
    | _ => some (withoutHost scheme rest)

/-- The address of a path that begins with a slash, on the same host. -/
def join? (base : Url) (path : String) : Option Url :=
  match base.place with
  | .opaqueText _ => none
  | .names _ => some (withTail { base with query := none, fragment := none } (cleaned path))

/-- An address with fields at the end of its query. -/
def withFields (url : Url) (fields : List (String × String)) : Url :=
  if fields.isEmpty then url
  else
    let earlier := url.query.getD ""
    let mark := if earlier.isEmpty then "" else "&"
    { url with query := some (earlier ++ mark ++ formFields fields) }

/-- Path and query, as a host is asked for them. -/
def target (url : Url) : String :=
  let path := match url.place with
    | .names names => String.join (names.map ("/" ++ ·))
    | .opaqueText text => text
  path ++ match url.query with
    | some query => "?" ++ query
    | none => ""

/-- Host and port. -/
def authority (url : Url) : String :=
  url.host.getD "" ++ match url.port with
    | some port => s!":{port}"
    | none => ""

def text (url : Url) : String :=
  let user := match url.user with
    | some user => user ++ "@"
    | none => ""
  let host := if url.host.isSome then "//" ++ user ++ url.authority else ""
  let fragment := match url.fragment with
    | some fragment => "#" ++ fragment
    | none => ""
  url.scheme ++ ":" ++ host ++ url.target ++ fragment

end Url

end CloudSpace
