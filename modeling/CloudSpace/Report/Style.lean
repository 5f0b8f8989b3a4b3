import CloudSpace.Environment

/-!
# Colours

Colours are control sequences around a text. A sequence inside the text that ends all colours
begins the outer one anew. Whether there are colours at all depends on the environment and on
whether anyone is looking.
-/
namespace CloudSpace.Report

inductive Style
  | green | red | yellow | bold
deriving DecidableEq, Repr

namespace Style

def code : Style → String
  | green => "32"
  | red => "31"
  | yellow => "33"
  | bold => "1"

/-- The sequence that begins a style. -/
def opening (style : Style) : String := "\x1b[" ++ style.code ++ "m"

/-- The sequence that ends all styles. -/
def closing : String := "\x1b[0m"

end Style

/-- How a text looks in colours, or without. -/
def paint (colored : Bool) (style : Style) (text : String) : String :=
  if colored then
    style.opening ++ text.replace Style.closing (Style.closing ++ style.opening) ++ Style.closing
  else text

/-- Whether a variable is set to anything but zero, if it is set. -/
def switch? (environment : Environment) (name : String) : Option Bool :=
  (environment.get? name).map (· != "0")

/-- Whether output has colours: on request, else not if that is asked for, and otherwise where it
goes to a terminal and nothing speaks against it. -/
def isColored (environment : Environment) (terminal : Bool) : Bool :=
  if switch? environment "CLICOLOR_FORCE" = some true then true
  else if (switch? environment "NO_COLOR").isSome then false
  else terminal && (switch? environment "CLICOLOR").getD true

end CloudSpace.Report
