import CloudSpace.Environment
import CloudSpace.Report.Format

/-!
# Command lines

A command line is a command among words that begin with a dash. Options that go with every
command may stand before the command as well as after it; what stands after it counts more. An
option with a value takes it from the same word or from the next one, and is checked as soon as
the next option is met, or at the end.
-/
namespace CloudSpace

inductive Command
  | validate (showCautions : Bool)
  | diff (kind : Option EntityKind)
  | plan (kind : Option EntityKind)
  | apply (kind : Option EntityKind) (approved : Bool)
  | get
deriving DecidableEq, Repr

/-- What a command line asks for. -/
structure Invocation where
  command : Command
  config : Option String
  verbose : Bool
  format : Format
deriving DecidableEq, Repr

/-- Why a command line is not carried out. -/
inductive Refusal
  | help
  /-- Nothing was asked for at all. -/
  | nothingAsked
  /-- The version is asked for, of a command or of the whole program. -/
  | version (command : Option String)
  | invalidValue
  | unknownArgument
  | unexpectedValue
  | repeated
  | unknownCommand
  | missingCommand
deriving DecidableEq, Repr

/-- Whether a refusal answers what was asked for. -/
def Refusal.isAnswer : Refusal → Bool
  | help => true
  | version _ => true
  | _ => false

namespace CommandLine

/-! ### Options -/

inductive Flag
  | config | verbose | output | help | version | cautions | kind | yes
deriving DecidableEq, Repr

namespace Flag

def long : Flag → String
  | config => "config"
  | verbose => "verbose"
  | output => "output"
  | help => "help"
  | version => "version"
  | cautions => "warnings"
  | kind => "kind"
  | yes => "yes"

def short? : Flag → Option Char
  | config => some 'c'
  | verbose => some 'v'
  | output => none
  | help => some 'h'
  | version => some 'V'
  | cautions => some 'w'
  | kind => some 'k'
  | yes => some 'y'

def takesValue : Flag → Bool
  | config | output | kind => true
  | _ => false

end Flag

inductive CommandName
  | validate | diff | plan | apply | get
deriving DecidableEq, Repr

namespace CommandName

def text : CommandName → String
  | validate => "validate"
  | diff => "diff"
  | plan => "plan"
  | apply => "apply"
  | get => "get"

def ofText? (text : String) : Option CommandName :=
  [validate, diff, plan, apply, get].find? (fun name => name.text = text)

/-- The options that only this command has. -/
def ownFlags : CommandName → List Flag
  | validate => [.cautions]
  | diff => [.kind]
  | plan => [.kind]
  | apply => [.kind, .yes]
  | get => []

end CommandName

def commonFlags : List Flag := [.config, .verbose, .output, .help, .version]

/-- The options before a command, or after one. -/
def flagsOf : Option CommandName → List Flag
  | none => commonFlags
  | some name => commonFlags ++ name.ownFlags

/-- The kind of entity that a word selects. -/
def kind? (word : String) : Option EntityKind :=
  if word = "apps" then some .applications
  else if word = "services" then some .services
  else if word = "space-developers" then some .developers
  else none

def format? (word : String) : Option Format :=
  if word = "text" then some .text else if word = "json" then some .json else none

/-- Whether an option can have a value. -/
def accepts (flag : Flag) (value : String) : Bool :=
  match flag with
  | .config => !value.isEmpty
  | .output => (format? value).isSome
  | .kind => (kind? value).isSome
  | _ => true

/-! ### Words -/

/-- What has been read of the words on one side of the command. -/
structure Reading where
  given : List (Flag × String) := []
  /-- An option that is not checked yet, with its value if that has been met. -/
  pending : Option (Flag × Option String) := none
deriving Repr

namespace Reading

def value? (reading : Reading) (flag : Flag) : Option String :=
  (reading.given.find? (fun entry => entry.1 = flag)).map (·.2)

def has (reading : Reading) (flag : Flag) : Bool := (reading.value? flag).isSome

/-- Whether the next word is the value of an option. -/
def awaitsValue (reading : Reading) : Bool :=
  match reading.pending with
  | some (_, none) => true
  | _ => false

/-- Note an option with its value. -/
def note (reading : Reading) (flag : Flag) (value : String) : Except Refusal Reading :=
  if reading.has flag then .error .repeated
  else if !accepts flag value then .error .invalidValue
  else .ok { reading with given := reading.given ++ [(flag, value)] }

/-- Check the option that is not checked yet. -/
def settle (reading : Reading) : Except Refusal Reading :=
  match reading.pending with
  | none => .ok reading
  | some (_, none) => .error .invalidValue
  | some (flag, some value) => { reading with pending := none }.note flag value

/-- Note an option that takes no value. -/
def turnOn (command : Option CommandName) (reading : Reading) (flag : Flag) :
    Except Refusal Reading := do
  -- The option before this one is checked first, even where help is asked for.
  let settled ← reading.settle
  match flag with
  | .help => throw .help
  | .version => throw (.version (command.map CommandName.text))
  | _ => settled.note flag ""

/-- Note an option with a value that may stand in the same word. -/
def takeValue (reading : Reading) (flag : Flag) (attached : Option String) :
    Except Refusal Reading := do
  let settled ← reading.settle
  match attached with
  | some value => settled.note flag value
  | none => return { settled with pending := some (flag, none) }

/-- A word with two dashes. -/
def long (command : Option CommandName) (reading : Reading) (name : String)
    (attached : Option String) : Except Refusal Reading :=
  match (flagsOf command).find? (fun flag => flag.long = name) with
  | none => .error .unknownArgument
  | some flag =>
    if flag.takesValue then reading.takeValue flag attached
    else if attached.isSome then .error .unexpectedValue
    else reading.turnOn command flag

/-- A word with one dash: several options, of which the last may have a value. -/
def short (command : Option CommandName) (reading : Reading) :
    List Char → Except Refusal Reading
  | [] => .ok reading
  | letter :: rest =>
    match (flagsOf command).find? (fun flag => flag.short? = some letter) with
    | none => .error .unknownArgument
    | some flag =>
      if flag.takesValue then
        reading.takeValue flag (match rest with
          | [] => none
          | '=' :: value => some (String.ofList value)
          | value => some (String.ofList value))
      else do
        let reading ← reading.turnOn command flag
        reading.short command rest

/-- A word that begins with a dash, and is more than that. -/
def option (command : Option CommandName) (reading : Reading) (word : List Char) :
    Except Refusal Reading :=
  match word with
  | '-' :: '-' :: rest =>
    let name := String.ofList (rest.takeWhile (· != '='))
    match rest.dropWhile (· != '=') with
    | '=' :: value => reading.long command name (some (String.ofList value))
    | _ => reading.long command name none
  | _ :: letters => reading.short command letters
  | [] => .ok reading

end Reading

def isOption (word : List Char) : Bool :=
  match word with
  | '-' :: _ :: _ => true
  | _ => false

/-! ### Lines -/

/-- Whether a word names a command. -/
def isCommand (word : String) : Bool := word = "help" || (CommandName.ofText? word).isSome

/-- The refusal of a word that is no option and the value of none. -/
def stray (command : Option CommandName) (afterMark : Bool) (word : String) : Refusal :=
  match command with
  | some _ => .unknownArgument
  | none => if afterMark && isCommand word then .unknownArgument else .unknownCommand

/-- The refusal that is the answer to a question for help, about the commands that follow. -/
def helpAbout : List String → Refusal
  | [] => .help
  | [word] => if isCommand word then .help else .unknownCommand
  | _ => .unknownCommand

/-- The variable with the path of the document. -/
def configVariable : String := "CFCONVERGE_CONFIG"

/-- Check that the environment has a usable path of the document where it is needed. -/
def checkEnvironment (environment : Environment) (reading : Reading) : Except Refusal Unit :=
  if !reading.has .config && environment.get? configVariable = some "" then .error .invalidValue
  else .ok ()

/-- A word that is not an option: the value of one, or a stray. -/
def readPlain (command : Option CommandName) (reading : Reading) (word : String) :
    Except Refusal Reading :=
  match reading.pending with
  | some (flag, none) => .ok { reading with pending := some (flag, some word) }
  | _ => .error (stray command false word)

/-- What has been read when nothing but strays may follow. -/
def readMarked (command : Option CommandName) (reading : Reading) :
    List String → Except Refusal Reading
  | [] => .ok reading
  | word :: _ => .error (stray command true word)

/-- Read the words after a command. -/
def readAfter (command : CommandName) (reading : Reading) :
    List String → Except Refusal Reading
  | [] => .ok reading
  | word :: rest =>
    if word = "--" then readMarked (some command) reading rest
    else if isOption word.toList then do
      readAfter command (← reading.option command word.toList) rest
    else do
      readAfter command (← readPlain (some command) reading word) rest

/-- Read the words before a command; with the command, if there is one, and what follows. -/
def readBefore (reading : Reading) :
    List String → Except Refusal (Reading × Option (CommandName × List String))
  | [] => .ok (reading, none)
  | word :: rest =>
    -- The name of a command may be the value of an option.
    match if reading.awaitsValue then none else CommandName.ofText? word with
    | some command => .ok (reading, some (command, rest))
    | none =>
      if word = "help" && !reading.awaitsValue then .error (helpAbout rest)
      else if word = "--" then do
        return (← readMarked none reading rest, none)
      else if isOption word.toList then do
        readBefore (← reading.option none word.toList) rest
      else do
        readBefore (← readPlain none reading word) rest

/-- The command with its own options. -/
def commandOf (name : CommandName) (reading : Reading) : Command :=
  let kind := (reading.value? .kind).bind kind?
  match name with
  | .validate => .validate (reading.has .cautions)
  | .diff => .diff kind
  | .plan => .plan kind
  | .apply => .apply kind (reading.has .yes)
  | .get => .get

/-- The path of the document: what is given after the command counts most, then what is given
before it, then the environment. -/
def configOf (environment : Environment) (before after : Reading) : Option String :=
  ((after.value? .config).or (before.value? .config)).or (environment.get? configVariable)

/-- Read the words of a command line, without the name of the program. -/
def read (environment : Environment) (words : List String) : Except Refusal Invocation := do
  let (before, found) ← readBefore {} words
  match found with
  | none =>
    let before ← before.settle
    checkEnvironment environment before
    let asked := !before.given.isEmpty || environment.contains configVariable
    throw (if asked then .missingCommand else .nothingAsked)
  | some (name, rest) =>
    -- What follows the command is checked before what precedes it.
    let after ← (← readAfter name {} rest).settle
    checkEnvironment environment after
    let before ← before.settle
    checkEnvironment environment before
    let output := (after.value? .output).or (before.value? .output)
    return { command := commandOf name after
             config := configOf environment before after
             verbose := after.has .verbose || before.has .verbose
             format := (output.bind format?).getD .text }

end CommandLine

end CloudSpace
