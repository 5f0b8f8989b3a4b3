import CloudSpace.Environment
import CloudSpace.Record.Document
import CloudSpace.Text.Bytes

/-!
# Files

Documents are found and read by path. A path is a text; the directory around it is found by
dropping its last name, without a look at any file, so that a relative path leads no further up
than its own first name.
-/
namespace CloudSpace

/-- What a path leads to. -/
inductive Entry
  | directory
  | file (content : List UInt8)
  /-- Something that cannot be read, with the reason. -/
  | unreadable (reason : String)
deriving DecidableEq, Repr, Inhabited

namespace FilePath

/-- A path within a directory. -/
def join (directory name : String) : String :=
  if name.startsWith "/" then name
  else if directory.isEmpty || directory.endsWith "/" then directory ++ name
  else directory ++ "/" ++ name

/-- A path from its end on, without the separators there and the dots that stand for nothing.
The root and a leading dot remain. -/
def trimmedBackward : List Char → List Char
  | ['/'] => ['/']
  | '/' :: rest => trimmedBackward rest
  | '.' :: '/' :: rest => trimmedBackward ('/' :: rest)
  | path => path
termination_by path => path.length

/-- The directory around a path, unless the path is empty or the root. -/
def parent? (path : String) : Option String :=
  let backward := trimmedBackward path.toList.reverse
  match backward with
  | [] | ['/'] => none
  | _ =>
    some (String.ofList (trimmedBackward (backward.dropWhile (· != '/'))).reverse)

theorem length_trimmedBackward_le (path : List Char) :
    (trimmedBackward path).length ≤ path.length := by
  fun_induction trimmedBackward path <;> simp_all <;> omega

/-- The directories around a path, innermost first. -/
def ancestors (path : String) : Nat → List String
  | 0 => []
  | steps + 1 =>
    match parent? path with
    | some parent => parent :: ancestors parent steps
    | none => []

/-- A path and the directories around it. -/
def upward (path : String) : List String := path :: ancestors path path.length

end FilePath

/-! ### Finding documents -/

namespace Document

/-- The names that a document has by default, the preferred one first. -/
def defaultName : String := "cfconverge.yaml"

def fileNames : List String := [defaultName, "cfconverge.yml", "manifest.converge.yaml"]

/-- Where a document is looked for, from a directory upward. -/
def candidates (start : String) : List String :=
  (FilePath.upward start).flatMap fun directory => fileNames.map (FilePath.join directory)

/-- The error when there is no document. -/
def notFound (path : String) : Error := .config (.fileNotFound path)

/-- The path where a document is, or the error when it is not there from a directory upward. -/
def found (start : String) : Option String → Except Error String
  | some path => .ok path
  | none => .error (notFound (FilePath.join start defaultName))

/-- The first path where a document is, from a directory upward. -/
def find (entryAt? : String → Option Entry) (start : String) : Except Error String :=
  found start ((candidates start).find? fun path => (entryAt? path).isSome)

/-- The error of a document that does not decode. -/
def unreadable (cause : Yaml.DecodeError) (source : Option String) : Error :=
  let detail := match cause with
    | .malformed => "not a configuration document"
    | .notScalar key => s!"value of '{key}' must be a scalar"
  .config (.unreadable s!"YAML parse error: {detail}" source)

/-- The document of a text, which may come from a named source. -/
def parse (content : String) (source : Option String := none) : Except Error Document :=
  (Document.ofYaml content).mapError fun cause => unreadable cause source

/-- The document at a path that leads to an entry, if it leads anywhere. -/
def ofEntry (path : String) (entry : Option Entry) : Except Error Document :=
  let failed (reason : String) : Except Error Document :=
    .error (.config (.unreadable s!"Failed to read file: {reason}" (some path)))
  match entry with
  | none => .error (notFound path)
  | some .directory => failed "Is a directory (os error 21)"
  | some (.unreadable reason) => failed reason
  | some (.file bytes) =>
    match Text.ofUtf8? bytes with
    | some content => parse content (some path)
    | none => failed "stream did not contain valid UTF-8"

end Document

end CloudSpace
