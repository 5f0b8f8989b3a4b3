import CloudSpace.Cloud.Request
import CloudSpace.Text.Bytes

/-!
# Requests and replies as bytes

Every request has a connection of its own, which is closed after the reply. A reply has a line
with its status, lines with fields, and after an empty line its text, which comes in one piece
or in chunks that are each preceded by their length.
-/
namespace CloudSpace.Cloud

/-! ### Requests -/

def lineEnd : String := "\r\n"

def fieldLine (name value : String) : String := s!"{name}: {value}" ++ lineEnd

namespace Request

/-- The fields about what a request carries, and what it carries. -/
def payload (request : Request) : String :=
  match request.body with
  | none => lineEnd
  | some body =>
    fieldLine "content-type" body.contentType ++
      fieldLine "content-length" (toString body.text.utf8ByteSize) ++ lineEnd ++ body.text

/-- A request as it is sent. -/
def wireText (request : Request) : String :=
  s!"{request.method.name} {request.url.target} HTTP/1.1" ++ lineEnd ++
  fieldLine "host" request.url.authority ++
  fieldLine "authorization" s!"Bearer {request.token}" ++
  fieldLine "accept" "*/*" ++
  fieldLine "connection" "close" ++
  request.payload

/-- Whether the token of a request stays within its line. -/
def isSendable (request : Request) : Bool :=
  request.token.toList.all fun c => c = '\t' || (0x20 ≤ c.toNat && c.toNat != 0x7F)

end Request

/-! ### Lines -/

/-- The first line of some bytes, without its end, and what follows. -/
def splitLine? : List UInt8 → Option (List UInt8 × List UInt8)
  | [] => none
  | 13 :: 10 :: rest => some ([], rest)
  | byte :: rest => (splitLine? rest).map fun found => (byte :: found.1, found.2)

theorem length_splitLine? {bytes : List UInt8} {found : List UInt8 × List UInt8}
    (split : splitLine? bytes = some found) : found.2.length < bytes.length := by
  induction bytes using splitLine?.induct generalizing found with
  | case1 => simp [splitLine?] at split
  | case2 rest =>
    simp only [splitLine?, Option.some.injEq] at split
    subst split
    simp only [List.length_cons]
    omega
  | case3 byte rest whole ih =>
    rw [splitLine?] at split
    · obtain ⟨inner, inner_split, rfl⟩ := Option.map_eq_some_iff.1 split
      have shorter := ih inner_split
      exact Nat.lt_succ_of_lt shorter
    · exact whole

/-- The lines up to the first empty one, and what follows that. -/
def splitHead? (bytes : List UInt8) : Option (List (List UInt8) × List UInt8) :=
  match _h : splitLine? bytes with
  | none => none
  | some ([], rest) => some ([], rest)
  | some (line, rest) => (splitHead? rest).map fun found => (line :: found.1, found.2)
termination_by bytes.length
decreasing_by exact length_splitLine? _h

/-- The characters of a line. -/
def lineText (line : List UInt8) : String :=
  String.ofList (line.map fun byte => Char.ofNat byte.toNat)

/-- A text without the blanks around it. -/
def unpadded (text : List Char) : List Char :=
  let isPadding (c : Char) : Bool := c = ' ' || c = '\t'
  ((text.dropWhile isPadding).reverse.dropWhile isPadding).reverse

/-- The name of a field in lower case, and its value. -/
def fieldOf (line : List UInt8) : String × String :=
  let text := (lineText line).toList
  let value := (text.dropWhile (· != ':')).drop 1
  ((String.ofList (text.takeWhile (· != ':'))).toLower, String.ofList (unpadded value))

/-- The value of a field; of two with one name the first counts. -/
def fieldValue? (fields : List (String × String)) (name : String) : Option String :=
  (fields.find? fun field => field.1 = name).map (·.2)

/-- The value of a field where it is made of plain characters. -/
def plainFieldValue? (fields : List (String × String)) (name : String) : Option String :=
  (fieldValue? fields name).filter fun value =>
    value.toList.all fun c => c = '\t' || (0x20 ≤ c.toNat && c.toNat < 0x7F)

/-- The number that decimal digits write. -/
def decimal? (digits : String) : Option Nat :=
  if digits.toList.all Char.isDigit then digits.toNat? else none

/-! ### Contents -/

/-- The length of a chunk. -/
def chunkLength? (line : List UInt8) : Option Nat :=
  let digits := unpadded ((lineText line).toList.takeWhile (· != ';'))
  if digits.isEmpty then none
  else digits.foldlM (fun length digit => (Text.hexValue? digit).map (length * 16 + ·)) 0

/-- The text of chunks up to the empty one. -/
def joinChunks? (bytes : List UInt8) : Option (List UInt8) :=
  match _h : splitLine? bytes with
  | none => none
  | some (line, rest) =>
    match chunkLength? line with
    | none => none
    | some 0 => some []
    | some length =>
      if rest.length < length + 2 then none
      else (joinChunks? (rest.drop (length + 2))).map (rest.take length ++ ·)
termination_by bytes.length
decreasing_by
  have shorter := length_splitLine? _h
  simp only [List.length_drop] at *
  omega

/-- The text of a reply, from the bytes after its head. -/
def contentOf? (fields : List (String × String)) (bytes : List UInt8) : Option (List UInt8) :=
  match fieldValue? fields "transfer-encoding", fieldValue? fields "content-length" with
  | some encoding, _ => if encoding.toLower = "chunked" then joinChunks? bytes else none
  | none, some length => do
    let length ← decimal? length
    if bytes.length < length then none else some (bytes.take length)
  | none, none => some bytes

/-! ### Replies -/

/-- The status in the first line of a reply. -/
def statusOf? (line : List UInt8) : Option Nat :=
  match (lineText line).splitOn " " with
  | version :: status :: _ => if version.startsWith "HTTP/1." then decimal? status else none
  | _ => none

/-- The reply that all the bytes on a connection make up. -/
def Reply.ofBytes? (bytes : List UInt8) : Option Reply := do
  let (lines, rest) ← splitHead? bytes
  let status ← statusOf? (← lines.head?)
  let fields := lines.tail.map fieldOf
  let content ← contentOf? fields rest
  return .response status (plainFieldValue? fields "retry-after")
    (plainFieldValue? fields "location") ((Text.ofUtf8? content).getD "")

end CloudSpace.Cloud
