import CloudSpace.CommandLine

/-!
# Usage

What is said about command lines that are not carried out: the version, how the program is used,
or what is wrong with the line.
-/
namespace CloudSpace

def programName : String := "cfconverge"

def programVersion : String := "0.1.0"

namespace CommandLine

/-- What a command does, in a few words. -/
def CommandName.purpose : CommandName → String
  | .validate => "Check the document"
  | .diff => "Show how the space differs from the document"
  | .plan => "Show the calls that would be made"
  | .apply => "Make the space what the document asks for"
  | .get => "Write the space as a document"

/-- A line of a list, with what is listed in a column. -/
def entryLine (name purpose : String) : String :=
  "  " ++ name ++ String.ofList (List.replicate (12 - name.length) ' ') ++ purpose ++ "\n"

/-- A line of a list, with both spellings of an option. -/
def optionLine (flag : Flag) : String :=
  let short := match flag.short? with
    | some letter => s!"-{letter}, "
    | none => "    "
  let value := if flag.takesValue then " <VALUE>" else ""
  s!"  {short}--{flag.long}{value}\n"

/-- How the program is used. -/
def help : String :=
  s!"Usage: {programName} [OPTIONS] <COMMAND>\n\nCommands:\n" ++
  String.join ([CommandName.validate, .diff, .plan, .apply, .get].map fun name =>
    entryLine name.text name.purpose) ++
  "\nOptions:\n" ++
  String.join ((commonFlags ++ [Flag.cautions, Flag.kind, Flag.yes]).map optionLine)

end CommandLine

namespace Refusal

/-- The status to exit with. -/
def status (refusal : Refusal) : Nat := if refusal.isAnswer then 0 else 2

/-- What is wrong with a command line, in one line. -/
def complaint : Refusal → String
  | invalidValue => "an option has no value or one that is not allowed"
  | unknownArgument => "an argument is not known here"
  | unexpectedValue => "an option that takes no value has one"
  | repeated => "an option is given twice"
  | unknownCommand => "the command is not known"
  | _ => "a command is missing"

def text : Refusal → String
  | version none => s!"{programName} {programVersion}\n"
  | version (some command) => s!"{programName}-{command} {programVersion}\n"
  | help => CommandLine.help
  | nothingAsked => CommandLine.help
  | refusal => s!"error: {refusal.complaint}\n\n{CommandLine.help}"

end Refusal

end CloudSpace
